import StyleValue.Proofs.Slices

/-! Where one token ends and the next one begins. A match is a longest one exactly if the character
behind it does not go on with its run, so the tokens of two inputs stay the tokens of both together
unless the last run of the first goes on into the second. -/
namespace StyleValue

open State

theorem Form.Matches.state {merge : Bool} {form : Form} {run : List CharClass}
    (h : form.Matches merge run) : ∃ s : State, s.form = form ∧ s.Holds merge run := by
  cases form with
  | space => exact ⟨.whitespace, rfl, h⟩
  | hex => exact ⟨.hex, rfl, h⟩
  | word => exact ⟨.letter, rfl, h⟩
  | symbol => exact ⟨.operator, rfl, h⟩
  | fault => exact ⟨.initial, rfl, h⟩
  | number =>
    obtain ⟨digits, nonempty, all, rfl | rfl⟩ := h
    · exact ⟨.number, rfl, nonempty, all⟩
    · exact ⟨.percent, rfl, digits, nonempty, all, rfl⟩

theorem State.form_next {merge : Bool} {s : State} {k : CharClass} (joins : s.joins merge k = true) :
    (s.next merge k).form = s.form := by
  cases s <;> cases k <;> cases merge <;> first | rfl | cases joins

theorem Longest.state {merge : Bool} {form : Form} {input run rest : List Character}
    (h : Longest (form.Matches merge) input run rest) : ∃ s : State, s.form = form ∧
      s.Holds merge (run.map Character.charClass) ∧
      ∀ c ∈ rest.head?, s.joins merge c.charClass = false := by
  obtain ⟨s, rfl, holds⟩ := h.holds.state
  refine ⟨s, rfl, holds, fun c next => ?_⟩
  -- If the next character went on with the run, the two would make a longer one.
  by_contra joins
  rw [Bool.not_eq_false] at joins
  obtain ⟨more, rfl⟩ := List.head?_eq_some_iff.mp next
  have longer : s.form.Matches merge ((run ++ [c]).map Character.charClass) := by
    rw [List.map_append, ← form_next joins]
    exact matches_of_holds (holds_next holds joins)
  have bound := h.longest (run ++ [c]) more (by simp [h.split]) longer
  rw [List.length_append, List.length_singleton] at bound
  omega

namespace Segmented

variable {merge : Bool}

theorem of_nil {ts : List Token} (h : Segmented merge [] ts) : ts = [] :=
  h.unique .nil

theorem cons_of_holds {s : State} {run rest : List Character} {ts : List Token}
    (holds : s.Holds merge (run.map Character.charClass))
    (apart : ∀ c ∈ rest.head?, s.joins merge c.charClass = false) (others : Segmented merge rest ts) :
    ∃ first later, run = first :: later ∧
      Segmented merge (run ++ rest) (s.form.token first later :: ts) := by
  cases run with
  | nil => exact absurd rfl (ne_nil_of_holds holds)
  | cons first later =>
    refine ⟨first, later, rfl, ?_⟩
    rw [← ofRun_eq holds]
    exact segmented_cons holds apart others

/-- The tokens of two inputs are those of both together, if the last run of the first one does not go
on. -/
theorem append {cs ds : List Character} {ts us : List Token} (front : Segmented merge cs ts)
    (back : Segmented merge ds us)
    (seam : ∀ (s : State) (run : List Character), run <:+ cs →
      s.Holds merge (run.map Character.charClass) →
      ∀ d ∈ ds.head?, s.joins merge d.charClass = false) :
    Segmented merge (cs ++ ds) (ts ++ us) := by
  induction front with
  | nil => exact back
  | @cons input later rest first form ts begun longest _ ih =>
    obtain ⟨s, rfl, holds, apart⟩ := longest.state
    have split := longest.split
    subst split
    have others := ih fun s run suffix => seam s run (suffix.trans (List.suffix_append _ _))
    have stops : ∀ c ∈ (rest ++ ds).head?, s.joins merge c.charClass = false := by
      cases rest with
      | nil => exact seam s (first :: later) (by simp) holds
      | cons c rest => exact apart
    rw [List.append_assoc]
    exact .cons begun (longest_of_holds holds stops) others

end Segmented

/-- The characters of a text, all of them at one place: they tell which the tokens are, but not where. -/
def Text.unplaced (t : Text) : List Character := t.map fun c => ⟨[c], .ofChar c, .origin⟩

theorem unplaced_bare (p : Position) (t : Text) :
    (charactersFrom p t).map Character.bare = t.unplaced.map Character.bare := by
  rw [charactersFrom_bare, Text.unplaced, List.map_map]
  rfl

theorem unplaced_values (t : Text) : t.unplaced.flatMap (·.value) = t := by
  simp [Text.unplaced, List.flatMap_map]

theorem unplaced_classes (t : Text) :
    t.unplaced.map Character.charClass = t.map CharClass.ofChar := by
  simp [Text.unplaced]

theorem charactersFrom_classes (p : Position) (t : Text) :
    (charactersFrom p t).map Character.charClass = t.map CharClass.ofChar := by
  rw [← unplaced_classes]
  exact classes_of_bare (unplaced_bare p t)

theorem tokenize_unplaced {merge : Bool} {source : Text} {ts : List Token}
    (h : Segmented merge source.unplaced ts) :
    (tokenize ⟨merge, false⟩ source).map Token.bare = ts.map Token.bare := by
  obtain ⟨us, segmented, words⟩ := h.relocate source.characters (unplaced_bare .origin source)
  rw [(tokenize_plain merge source).unique segmented, words]

end StyleValue

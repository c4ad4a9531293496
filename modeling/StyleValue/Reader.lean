import StyleValue.Character

/-! Reading characters one at a time. A reader gives each of its characters once, then the mark of the
end of the input, and then nothing more. -/
namespace StyleValue

structure Reader where
  upcoming : List Character
  mark : Character
  /-- Whether the mark has been given. -/
  ended : Bool
  deriving DecidableEq, Repr

structure PeekError where
  distance : Int
  deriving DecidableEq, Repr

def PeekError.message (e : PeekError) : Text :=
  "peek offset must be non-negative, got " ++ Text.ofInt e.distance

namespace Reader

def ofText (t : Text) : Reader := ⟨t.characters, .endMark t.endPosition, false⟩

/-- The place of the end mark for characters that were classified elsewhere: one column behind the
last of them, whatever its class is. -/
def endOf (cs : List Character) : Position :=
  match cs.getLast? with
  | none => .origin
  | some c => ⟨c.position.line, c.position.column + 1, c.position.offset + 1⟩

def ofCharacters (cs : List Character) : Reader := ⟨cs, .endMark (endOf cs), false⟩

def next? (r : Reader) : Option (Character × Reader) :=
  match r.upcoming with
  | c :: rest => some (c, { r with upcoming := rest })
  | [] => if r.ended then none else some (r.mark, { r with ended := true })

/-- The next `n` characters, if there are so many. The mark counts as one. -/
def take? (r : Reader) : Nat → Option (List Character × Reader)
  | 0 => some ([], r)
  | n + 1 => do
    let (c, r) ← r.next?
    let (cs, r) ← r.take? n
    return (c :: cs, r)

/-- The value of the character that comes `distance` characters after the next one. The end mark is no
such character. -/
def peek (r : Reader) (distance : Int) : Except PeekError (Option Text) :=
  if distance < 0 then .error ⟨distance⟩
  else .ok (r.upcoming[distance.toNat]?.map (·.value))

def position (r : Reader) : Position := (r.upcoming.headD r.mark).position

def atError (r : Reader) : Character := .errorMark r.position

def remaining (r : Reader) : List Character :=
  r.upcoming ++ if r.ended then [] else [r.mark]

def exhausted (r : Reader) : Reader := { r with upcoming := [], ended := true }

end Reader

end StyleValue

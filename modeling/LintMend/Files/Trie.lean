import LintMend.Files.Path

/-! # Tries

Values at places, kept so that the way down to a place is walked once.
* `Trie`: names side by side, each perhaps with a value, and with a trie of what is below it.
* `Spot`: what a place holds: its value, and what is below.
* `Spot.descend`: the spot at a place below.
* `Spot.insert`: the spot with another value at a place below; `value_descend_insert` says that the
  value is there afterwards, and that the values of all other places are as before.
* `Trie.toList`: the places that have values. -/

namespace LintMend

/-- Names side by side, each with its value if it has one, and with what is below it. -/
inductive Trie (α : Type) where
  /-- No names. -/
  | empty
  /-- A name, and the names beside it. -/
  | branch (name : Text) (value : Option α) (below others : Trie α)
  deriving DecidableEq, Repr

/-- What a place holds. -/
structure Spot (α : Type) where
  /-- The value, if there is one. -/
  value : Option α
  /-- What is below the place. -/
  below : Trie α
  deriving DecidableEq, Repr

namespace Trie

variable {α : Type}

/-- What a name holds. -/
def spot : Trie α → Text → Spot α
  | empty, _ => ⟨none, empty⟩
  | branch name value below others, wanted =>
      if name = wanted then ⟨value, below⟩ else others.spot wanted

@[simp] theorem spot_empty (wanted : Text) : (empty : Trie α).spot wanted = ⟨none, empty⟩ := rfl

/-- The trie with a change to what a name holds. -/
def modify (change : Spot α → Spot α) (wanted : Text) : Trie α → Trie α
  | empty =>
      let made := change ⟨none, empty⟩
      branch wanted made.value made.below empty
  | branch name value below others =>
      if name = wanted then
        let made := change ⟨value, below⟩
        branch name made.value made.below others
      else branch name value below (modify change wanted others)

/-- The name holds what the change makes of what it held. -/
@[simp] theorem spot_modify_self (change : Spot α → Spot α) (wanted : Text) (t : Trie α) :
    (t.modify change wanted).spot wanted = change (t.spot wanted) := by
  induction t with
  | empty => simp [modify, spot]
  | branch name value below others _ ih =>
      by_cases h : name = wanted <;> simp [modify, spot, h, ih]

/-- The other names hold what they held. -/
theorem spot_modify_of_ne (change : Spot α → Spot α) {wanted other : Text} (h : other ≠ wanted)
    (t : Trie α) : (t.modify change wanted).spot other = t.spot other := by
  induction t with
  | empty => simp [modify, spot, h.symm]
  | branch name value below others _ ih =>
      by_cases hn : name = wanted
      · subst hn
        simp [modify, spot, h.symm]
      · by_cases ho : name = other <;> simp [modify, spot, hn, ho, h, ih]

/-- The places that have values, each with its value, if the trie is what is below `above`. -/
def toListBelow (above : Place) : Trie α → List (Place × α)
  | empty => []
  | branch name value below others =>
      (value.map fun a => (above ++ [name], a)).toList
        ++ (toListBelow (above ++ [name]) below ++ toListBelow above others)

/-- The places that have values, each with its value. -/
def toList (t : Trie α) : List (Place × α) := t.toListBelow []

end Trie

namespace Spot

variable {α : Type}

/-- The spot at a place below. -/
def descend (s : Spot α) (place : Place) : Spot α :=
  place.foldl (fun found name => found.below.spot name) s

@[simp] theorem descend_nil (s : Spot α) : s.descend [] = s := rfl

@[simp] theorem descend_cons (s : Spot α) (name : Text) (place : Place) :
    s.descend (name :: place) = (s.below.spot name).descend place := rfl

/-- The last name of a place is looked up in what is below the others. -/
theorem descend_concat (s : Spot α) (place : Place) (name : Text) :
    s.descend (place ++ [name]) = (s.descend place).below.spot name := by
  simp [descend]

/-- The spot with a value at a place below. -/
def insert (a : α) : Place → Spot α → Spot α
  | [], s => ⟨some a, s.below⟩
  | name :: place, s => ⟨s.value, s.below.modify (insert a place) name⟩

/-- A value that has been inserted is at its place, and the values of other places are as before. -/
theorem value_descend_insert (a : α) (place other : Place) (s : Spot α) :
    ((s.insert a place).descend other).value
      = if other = place then some a else (s.descend other).value := by
  induction place generalizing s other with
  | nil => cases other <;> simp [insert]
  | cons name place ih =>
      cases other with
      | nil => simp [insert]
      | cons first other =>
          by_cases h : first = name
          · subst h
            simp [insert, ih]
          · simp [insert, h, Trie.spot_modify_of_ne _ h]

end Spot

end LintMend

import LintMend.Json.Reader
import Mathlib.Data.List.TakeWhile

/-! # Faults that a JSON text shows

A reader goes forward in its text, and the text shows why it is not read.
* `HasLongRun`: a text in which more digits stand side by side than a number may have.
* `Fault.Shows`: what a text holds that has a fault. A text that is nested too deep opens more lists
  and records than may be nested.
* `Within`: an outcome of a reader that is behind the text, or a fault that the text shows.
* `within_readValue`: every outcome is such a one, by induction on the depth.
* `shows_of_read`: so a text that is not read is no JSON, or it shows why not. -/

namespace LintMend.Json

variable {α β : Type}

/-! ## Faults -/

/-- Whether more digits stand side by side in a text than a number may have. -/
def HasLongRun (t : Text) : Prop :=
  ∃ digits, digits <:+: t ∧ (∀ c ∈ digits, c.isDigit = true) ∧ Numeral.maxDigits < digits.length

/-- The brackets that open lists and records. -/
def isOpening (c : Char) : Bool := c == '[' || c == '\x7b'

/-- What a text holds in which a fault is met, if lists and records may be nested so deep. -/
def Fault.Shows (depth : Nat) (t : Text) : Fault → Prop
  | malformed => True
  | overlong _ => HasLongRun t
  -- brackets in texts count as well, so this is more than is needed to nest
  | tooDeep _ => depth < t.countP isOpening

/-- What the end of a text shows is shown by all of it. -/
theorem Fault.Shows.of_suffix {depth : Nat} {t u : Text} {fault : Fault}
    (h : fault.Shows depth u) (hu : u <:+ t) : fault.Shows depth t := by
  cases fault with
  | malformed => exact trivial
  | overlong e =>
      obtain ⟨digits, hinfix, hdigits, hlength⟩ := h
      exact ⟨digits, hinfix.trans hu.isInfix, hdigits, hlength⟩
  | tooDeep container => exact Nat.lt_of_lt_of_le h (hu.sublist.countP_le)

/-! ## Outcomes -/

/-- Whether what a reader leaves of a text is the end of that, and the text shows why it fails. -/
def Within (depth : Nat) (t : Text) : Except Fault (α × Text) → Prop
  | .ok (_, rest) => rest <:+ t
  | .error fault => fault.Shows depth t

variable {depth : Nat} {t u : Text} {outcome : Except Fault (α × Text)}

/-- What is read from the end of a text is read from the text. -/
theorem Within.of_suffix (h : Within depth u outcome) (hu : u <:+ t) :
    Within depth t outcome := by
  match outcome, h with
  | .ok (_, rest), h => exact List.IsSuffix.trans h hu
  | .error fault, h => exact Fault.Shows.of_suffix h hu

/-- It does not matter what is made of the value. -/
theorem Within.map (h : Within depth t outcome) {change : α × Text → β × Text}
    (hchange : ∀ value rest, (change (value, rest)).2 = rest) :
    Within depth t (outcome.map change) := by
  match outcome, h with
  | .ok (value, rest), h =>
      have hrest := hchange value rest
      have hsuffix : rest <:+ t := h
      rw [← hrest] at hsuffix
      exact hsuffix
  | .error fault, h => exact h

/-- Blanks are skipped forward. -/
theorem skipBlanks_suffix (t : Text) : skipBlanks t <:+ t := List.dropWhile_suffix isBlank

/-- What follows the first character behind some blanks is behind the text. -/
theorem suffix_of_skipBlanks {c : Char} {after : Text} (h : skipBlanks t = c :: after) :
    after <:+ t := by
  have hcons : c :: after <:+ t := h ▸ skipBlanks_suffix t
  exact (List.suffix_cons c after).trans hcons

/-! ## Scalars -/

/-- The whole part of a number is digits at the front of the text. -/
theorem wholePart_prefix (t : Text) : wholePart t <+: t ∧ ∀ c ∈ wholePart t, c.isDigit = true := by
  cases t with
  | nil => exact ⟨List.prefix_refl _, nofun⟩
  | cons c rest =>
      rw [wholePart]
      split
      · next hzero =>
          refine ⟨⟨rest, rfl⟩, fun d hd => ?_⟩
          rw [List.mem_singleton.1 hd, hzero]
          decide
      · exact ⟨List.takeWhile_prefix _, fun d hd => List.mem_takeWhile_imp hd⟩

/-- A number is read forward, and is too long only if it is a long run of digits. -/
theorem within_readNumber (depth : Nat) (sign t : Text) :
    Within depth t (readNumber sign t) := by
  rw [readNumber]
  split
  · exact trivial
  · dsimp only
    split
    · cases hread : Numeral.read (wholePart t) with
      | error e =>
          obtain ⟨hwhole, hdigits⟩ := wholePart_prefix t
          exact ⟨wholePart t, hwhole.isInfix, hdigits, (Numeral.read_eq_error_iff.1 hread).1⟩
      | ok n => exact List.drop_suffix _ _
    · exact List.drop_suffix _ _

/-- A text between quotes is read forward. -/
theorem unquoteFrom_suffix {skip : Nat} {value rest : Text}
    (h : unquoteFrom skip t = some (value, rest)) : rest <:+ t := by
  fun_induction unquoteFrom skip t generalizing value with
  | case1 => cases h
  | case2 skip c t ih => exact (ih h).trans (List.suffix_cons c t)
  | case3 t =>
      cases h
      exact List.suffix_cons _ _
  | case4 => cases h
  | case5 t d more _ _ ih =>
      obtain ⟨⟨text, after⟩, hafter, heq⟩ := Option.map_eq_some_iff.1 h
      cases heq
      exact (ih hafter).trans (List.suffix_cons _ _)
  | case6 => cases h
  | case7 c t _ _ _ ih =>
      obtain ⟨⟨text, after⟩, hafter, heq⟩ := Option.map_eq_some_iff.1 h
      cases heq
      exact (ih hafter).trans (List.suffix_cons _ _)

/-- A word that stands for a value is read forward. -/
theorem constant?_suffix {value : Json} {rest : Text} (h : constant? t = some (value, rest)) :
    rest <:+ t := by
  obtain ⟨⟨word, found⟩, -, hword⟩ := List.exists_of_findSome?_eq_some h
  obtain ⟨after, hafter, heq⟩ := Option.map_eq_some_iff.1 hword
  cases heq
  rw [Text.after?_eq_some_iff] at hafter
  exact ⟨word, hafter.symm⟩

/-- A value that holds no others is read forward. -/
theorem within_readScalar (depth : Nat) (t : Text) : Within depth t (readScalar t) := by
  unfold readScalar
  split
  · next found hfound => exact constant?_suffix hfound
  split
  · exact trivial
  · next c rest _ =>
      have hrest := List.suffix_cons c rest
      split
      · split
        · next value after hunquote => exact (unquoteFrom_suffix hunquote).trans hrest
        · exact trivial
      split
      · exact (within_readNumber depth _ rest).of_suffix hrest
      · exact within_readNumber depth _ _

/-! ## Lists and records -/

/-- The name of a member is read forward. -/
theorem within_readName (depth : Nat) (t : Text) : Within depth t (readName t) := by
  cases t with
  | nil => exact trivial
  | cons c rest =>
      rw [readName]
      split
      · split
        · exact trivial
        · next name after hunquote =>
            split
            · exact trivial
            · next d left hleft =>
                split
                · exact (((skipBlanks_suffix left).trans (suffix_of_skipBlanks hleft)).trans
                    (unquoteFrom_suffix hunquote)).trans (List.suffix_cons c rest)
                · exact trivial
      · exact trivial

variable {item : Reader Json}

/-- The items of a list are read forward if one item is. -/
theorem within_readItems (hitem : ∀ t, Within depth t (item t)) (fuel : Nat) (t : Text) :
    Within depth t (readItems item fuel t) := by
  induction fuel generalizing t with
  | zero => exact trivial
  | succ fuel ih =>
      have hfirst := hitem t
      -- the induction is on the fuel, but the items behind a comma are those of a shorter text
      rw [readItems]
      split
      · next e he =>
          rw [he] at hfirst
          exact hfirst
      · next value rest hvalue =>
          have hrest : rest <:+ t := by
            rw [hvalue] at hfirst
            exact hfirst
          split
          · exact trivial
          · next c after hafter =>
              have hsuffix := (suffix_of_skipBlanks hafter).trans hrest
              split
              · exact hsuffix
              split
              · exact (((ih _).of_suffix (skipBlanks_suffix after)).map fun _ _ => rfl).of_suffix
                  hsuffix
              · exact trivial

/-- So are the members of a record. -/
theorem within_readMembers (hitem : ∀ t, Within depth t (item t)) (fuel : Nat) (t : Text) :
    Within depth t (readMembers item fuel t) := by
  induction fuel generalizing t with
  | zero => exact trivial
  | succ fuel ih =>
      have hname := within_readName depth t
      rw [readMembers]
      split
      · next e he =>
          rw [he] at hname
          exact hname
      · next name start hstart =>
          rw [hstart] at hname
          have hfirst := (hitem start).of_suffix hname
          split
          · next e he =>
              rw [he] at hfirst
              exact hfirst
          · next value rest hvalue =>
              have hrest : rest <:+ t := by
                rw [hvalue] at hfirst
                exact hfirst
              split
              · exact trivial
              · next c after hafter =>
                  have hsuffix := (suffix_of_skipBlanks hafter).trans hrest
                  split
                  · exact hsuffix
                  split
                  · exact (((ih _).of_suffix (skipBlanks_suffix after)).map
                      fun _ _ => rfl).of_suffix hsuffix
                  · exact trivial

/-- A list is read forward. -/
theorem within_readList (hitem : ∀ t, Within depth t (item t)) (t : Text) :
    Within depth t (readList item t) := by
  rw [readList]
  split
  · exact trivial
  · next c rest hrest =>
      have hcons : c :: rest <:+ t := hrest ▸ skipBlanks_suffix t
      split
      · exact (List.suffix_cons c rest).trans hcons
      · exact ((within_readItems hitem _ _).map fun _ _ => rfl).of_suffix hcons

/-- So is a record. -/
theorem within_readRecord (hitem : ∀ t, Within depth t (item t)) (t : Text) :
    Within depth t (readRecord item t) := by
  rw [readRecord]
  split
  · exact trivial
  · next c rest hrest =>
      have hcons : c :: rest <:+ t := hrest ▸ skipBlanks_suffix t
      split
      · exact (List.suffix_cons c rest).trans hcons
      · exact ((within_readMembers hitem _ _).map fun _ _ => rfl).of_suffix hcons

/-! ## Values -/

/-- Behind an opening bracket one value less may be open. -/
theorem Within.of_opening {c : Char} {rest : Text} (hc : isOpening c = true)
    (h : Within depth rest outcome) : Within (depth + 1) (c :: rest) outcome := by
  match outcome, h with
  | .ok (_, left), h => exact List.IsSuffix.trans h (List.suffix_cons c rest)
  | .error .malformed, _ => exact trivial
  | .error (.overlong e), h =>
      have hlong : (Fault.overlong e).Shows (depth + 1) rest := h
      exact hlong.of_suffix (List.suffix_cons c rest)
  | .error (.tooDeep container), h =>
      have hdeep : depth < rest.countP isOpening := h
      change depth + 1 < (c :: rest).countP isOpening
      rw [List.countP_cons_of_pos hc]
      exact Nat.succ_lt_succ hdeep

/-- A value is read forward, and the text shows why it is not read. -/
theorem within_readValue (depth : Nat) (t : Text) : Within depth t (readValue depth t) := by
  induction depth generalizing t with
  | zero =>
      cases t with
      | nil => exact trivial
      | cons c rest =>
          have hopening : isOpening c = true → 0 < (c :: rest).countP isOpening := by
            intro hc
            rw [List.countP_cons_of_pos hc]
            exact Nat.succ_pos _
          rw [readValue]
          split
          · next hc => exact hopening (hc ▸ rfl)
          split
          · next hc => exact hopening (hc ▸ rfl)
          · exact within_readScalar 0 _
  | succ depth ih =>
      cases t with
      | nil => exact trivial
      | cons c rest =>
          rw [readValue]
          split
          · next hc => exact Within.of_opening (hc ▸ rfl) (within_readList ih rest)
          split
          · next hc => exact Within.of_opening (hc ▸ rfl) (within_readRecord ih rest)
          · exact within_readScalar _ _

/-- A text is read, or it is no JSON, or it shows why not. -/
theorem shows_of_read {fault : Fault} (h : Json.read t = .error fault) :
    fault.Shows maxDepth t := by
  have hwithin := (within_readValue maxDepth (skipBlanks t)).of_suffix (skipBlanks_suffix t)
  rw [Json.read] at h
  split at h
  · next e he =>
      cases h
      rw [he] at hwithin
      exact hwithin
  · split at h
    · cases h
    · cases h
      exact trivial

end LintMend.Json

import LintMend.Proofs.Files.Directories
import Mathlib.Data.List.Basic
import Mathlib.Logic.Relation

/-! # Spellings of a path

One place can be spelled in many ways: with detours that lead back to where they begin, and from the
present directory or from the root.
* `Path.IsName`: the names that lead one step down.
* `Path.namesOf_append_cons`: a slash parts the names before it from those behind it.
* `Path.IsDetour`: a slash that is repeated, `./`, and a name that is taken back at once.
* `Path.Respells`: a text that spells a place anew in one of these ways; `Respells.resolve?_eq` says
  that it leads to the same place.
* `Path.resolve?_eq_of_eqvGen`: so do all texts that are spelled anew in any number of steps. -/

namespace LintMend.Path

variable {here : Place} {t u name : Text}

/-! ## Names -/

/-- Whether a text is a name that leads one step down. -/
structure IsName (name : Text) : Prop where
  /-- It is not empty. -/
  ne_nil : name ≠ []
  /-- It does not stand for the directory itself. -/
  ne_self : name ≠ selfName
  /-- It does not stand for the directory above. -/
  ne_parent : name ≠ parentName
  /-- It holds no slash. -/
  slash : '/' ∉ name
  /-- It holds no null character. -/
  null : '\x00' ∉ name

instance (name : Text) : Decidable (IsName name) :=
  decidable_of_iff
    (name ≠ [] ∧ name ≠ selfName ∧ name ≠ parentName ∧ '/' ∉ name ∧ '\x00' ∉ name)
    ⟨fun ⟨hnil, hself, hparent, hslash, hnull⟩ => ⟨hnil, hself, hparent, hslash, hnull⟩,
      fun h => ⟨h.ne_nil, h.ne_self, h.ne_parent, h.slash, h.null⟩⟩

/-- A slash parts the names before it from those behind it. -/
theorem namesOf_append_cons (t u : Text) : namesOf (t ++ '/' :: u) = namesOf t ++ namesOf u := by
  have hsplit := List.splitOnP_append_cons (p := (· == '/')) t u (beq_self_eq_true '/')
  rw [namesOf, Text.pieces_eq_splitOnP, hsplit, List.filter_append, ← Text.pieces_eq_splitOnP,
    ← Text.pieces_eq_splitOnP, namesOf, namesOf]

/-- The names of names that are joined. -/
theorem namesOf_join {names : List Text} (h : ∀ name ∈ names, IsName name) :
    namesOf (Text.join ['/'] names) = names := by
  by_cases hne : names = []
  · subst hne
    rfl
  · rw [namesOf, pieces_join hne fun name hname => (h name hname).slash, List.filter_eq_self]
    exact fun name hname => decide_eq_true ⟨(h name hname).ne_nil, (h name hname).ne_self⟩

/-- Names lead down one after the other. -/
theorem foldl_step_of_isName {names : List Text} (h : ∀ name ∈ names, IsName name)
    (place : Place) : names.foldl Place.step place = place ++ names := by
  induction names generalizing place with
  | nil => exact (List.append_nil place).symm
  | cons name names ih =>
      rw [List.forall_mem_cons] at h
      rw [List.foldl_cons, Place.step, if_neg h.1.ne_parent, ih h.2, List.append_assoc]
      rfl

/-- A name that is taken back at once leads nowhere. -/
theorem foldl_step_detour (h : IsName name) (front back : List Text) (place : Place) :
    (front ++ name :: parentName :: back).foldl Place.step place
      = (front ++ back).foldl Place.step place := by
  have hback : ∀ reached : Place, Place.step (Place.step reached name) parentName = reached := by
    intro reached
    rw [Place.step, Place.step, if_neg h.ne_parent, if_pos rfl, List.dropLast_concat]
  rw [List.foldl_append, List.foldl_cons, List.foldl_cons, hback, List.foldl_append]

/-! ## Where a text leads -/

/-- Where the path with this text starts. -/
def startFrom (here : Place) (t : Text) : Place := if t.head? = some '/' then [] else here

/-- A path starts at a root exactly if its text begins with a slash. -/
theorem anchorOf_eq_here_iff : anchorOf t = .here ↔ t.head? ≠ some '/' := by
  rw [anchorOf]
  cases t with
  | nil => exact iff_of_true rfl nofun
  | cons c t =>
      by_cases hc : c = '/'
      · subst hc
        rw [List.takeWhile_cons_of_pos (by rfl), List.length_cons]
        refine iff_of_false ?_ (not_not.2 rfl)
        split
        · omega
        · exact nofun
        · exact nofun
      · rw [List.takeWhile_cons_of_neg (by simpa using hc)]
        exact iff_of_true rfl (by simpa using hc)

/-- The place that a text leads to. -/
theorem resolve?_ofText (here : Place) (t : Text) :
    (ofText t).resolve? here
      = if (namesOf t).any fun name => name.contains '\x00' then none
        else some ((namesOf t).foldl Place.step (startFrom here t)) := by
  rw [resolve?, resolve, startFrom, hasNull, ofText]
  dsimp only
  by_cases h : t.head? = some '/'
  · rw [if_pos h, if_neg fun hhere => anchorOf_eq_here_iff.1 hhere h]
  · rw [if_neg h, if_pos (anchorOf_eq_here_iff.2 h)]

/-- A text without null characters leads somewhere. -/
theorem resolve?_of_not_mem (h : '\x00' ∉ t) (here : Place) :
    (ofText t).resolve? here = some ((ofText t).resolve here) := by
  have hnone : (ofText t).hasNull = false := by
    rw [hasNull, List.any_eq_false]
    intro name hname hnull
    have hmem : '\x00' ∈ name := by simpa using hnull
    exact h (Text.of_mem_pieces (List.mem_of_mem_filter hname) hmem).1
  rw [resolve?, hnone]
  rfl

/-- Two texts lead to the same place if they start at the same and have the same names, apart from
one that is taken back at once. -/
theorem resolve?_eq_of_names (front back : List Text)
    (hstart : startFrom here u = startFrom here t) (ht : namesOf t = front ++ back)
    (hu : namesOf u = front ++ back
      ∨ ∃ name, IsName name ∧ namesOf u = front ++ name :: parentName :: back) :
    (ofText u).resolve? here = (ofText t).resolve? here := by
  rw [resolve?_ofText, resolve?_ofText, hstart, ht]
  rcases hu with hu | ⟨name, hname, hu⟩
  · rw [hu]
  · have hplain : (name.contains '\x00') = false := by simpa using hname.null
    have hparent : (parentName.contains '\x00') = false := by decide
    rw [hu, foldl_step_detour hname, List.any_append, List.any_cons, List.any_cons, hplain, hparent,
      Bool.false_or, Bool.false_or, List.any_append]

/-! ## Detours -/

/-- Whether a text in front of another one leads back to where it begins. -/
inductive IsDetour : Text → Prop
  /-- A slash that is repeated. -/
  | slash : IsDetour ['/']
  /-- The directory itself. -/
  | self : IsDetour (selfName ++ ['/'])
  /-- A name, and the directory above. -/
  | name {name : Text} (h : IsName name) : IsDetour (name ++ '/' :: (parentName ++ ['/']))

/-- A detour is no name at all, or one that is taken back at once. -/
theorem IsDetour.namesOf_append {detour : Text} (h : IsDetour detour) (t : Text) :
    namesOf (detour ++ t) = namesOf t
      ∨ ∃ name, IsName name ∧ namesOf (detour ++ t) = name :: parentName :: namesOf t := by
  cases h with
  | slash => exact .inl (namesOf_append_cons [] t)
  | self => exact .inl (namesOf_append_cons selfName t)
  | @name name h =>
      have hone : ∀ n ∈ [name], IsName n := List.forall_mem_singleton.2 h
      have hname : namesOf name = [name] := namesOf_join hone
      have hparent : namesOf parentName = [parentName] := by decide
      refine .inr ⟨name, h, ?_⟩
      rw [List.append_assoc, List.cons_append, List.append_assoc, namesOf_append_cons, hname]
      exact congrArg ([name] ++ ·) ((namesOf_append_cons parentName t).trans (by rw [hparent]; rfl))

/-- Whether one text spells the path of another anew. -/
inductive Respells (here : Place) : Text → Text → Prop
  /-- There is a detour behind a slash. -/
  | behindSlash {detour : Text} (h : IsDetour detour) (front back : Text) :
      Respells here (front ++ '/' :: back) (front ++ '/' :: (detour ++ back))
  /-- There is a detour in front. It begins with no slash, and neither does the path. -/
  | inFront {detour t : Text} (h : IsDetour detour) (hslash : detour.head? ≠ some '/')
      (ht : t.head? ≠ some '/') : Respells here t (detour ++ t)
  /-- There is a slash at the end. -/
  | atEnd {t : Text} (ht : t ≠ []) : Respells here t (t ++ ['/'])
  /-- The path is given from the root, and not from the present directory. -/
  | fromRoot {t : Text} (hhere : ∀ name ∈ here, IsName name) (ht : t.head? ≠ some '/') :
      Respells here t (here.text ++ '/' :: t)

/-- A text that spells a path anew leads to the same place. -/
theorem Respells.resolve?_eq (h : Respells here t u) :
    (ofText u).resolve? here = (ofText t).resolve? here := by
  cases h with
  | @behindSlash detour h front back =>
      refine resolve?_eq_of_names _ _ ?_ (namesOf_append_cons front back) ?_
      · cases front <;> rfl
      · rw [namesOf_append_cons]
        rcases h.namesOf_append back with hsame | ⟨name, hname, hback⟩
        · exact .inl (by rw [hsame])
        · exact .inr ⟨name, hname, by rw [hback]⟩
  | @inFront detour _ h hslash ht =>
      have hhead : (detour ++ t).head? ≠ some '/' := by
        cases detour with
        | nil => exact ht
        | cons c detour => exact hslash
      refine resolve?_eq_of_names [] _ ?_ rfl (h.namesOf_append t)
      rw [startFrom, startFrom, if_neg hhead, if_neg ht]
  | atEnd ht =>
      refine resolve?_eq_of_names _ [] ?_ (List.append_nil _).symm (.inl ?_)
      · obtain ⟨c, t, rfl⟩ := List.exists_cons_of_ne_nil ht
        rfl
      · exact namesOf_append_cons t []
  | fromRoot hhere ht =>
      -- the names down to the present directory are followed first, and lead there
      have hnames : namesOf (here.text ++ '/' :: t) = here ++ namesOf t := by
        have hroot := namesOf_append_cons [] (Text.join ['/'] here)
        rw [namesOf_append_cons, Place.text]
        exact congrArg (· ++ namesOf t) (hroot.trans (namesOf_join hhere))
      have hstart : startFrom here (here.text ++ '/' :: t) = [] := if_pos rfl
      have hplain : (here.any fun name => name.contains '\x00') = false := by
        rw [List.any_eq_false]
        exact fun name hname => by simpa using (hhere name hname).null
      rw [resolve?_ofText, resolve?_ofText, hnames, hstart, List.any_append, hplain, Bool.false_or,
        List.foldl_append, foldl_step_of_isName hhere, List.nil_append, startFrom, if_neg ht]

/-- However often a path is spelled anew, there or back, it leads to the same place. -/
theorem resolve?_eq_of_eqvGen (h : Relation.EqvGen (Respells here) t u) :
    (ofText t).resolve? here = (ofText u).resolve? here := by
  induction h with
  | rel t u h => exact h.resolve?_eq.symm
  | refl t => rfl
  | symm t u _ ih => exact ih.symm
  | trans t u v _ _ ih ih' => exact ih.trans ih'

end LintMend.Path

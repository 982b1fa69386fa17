import LintMend.Display.Screen

/-! # Style codes and characters

What is written for a line with style codes, and what without them.
* `Screen.withoutStyles`: a text without its style codes.
* `Screen.withoutStyles_withCodes`: by induction on the cells, whatever style has been turned on,
  nothing but codes is lost, no matter where the pieces of one style end.
* `Screen.forall_mem_sent`, `Screen.sent_of_forall_ne`: the cells that are sent out for a line.
* `Screen.withoutStyles_write_append`: a line that is written with codes is, without them, the line
  that is written without codes. -/

namespace LintMend.Screen

variable {c : Char} {t inner : Text} {line : List Cell} {columns : Char → Nat}

/-! ## Deleting codes -/

/-- A text without its style codes, when one has begun already or none has. A code begins with the
escape character and a bracket, and the next letter m ends it. -/
def withoutStylesFrom : Bool → Text → Text
  | _, [] => []
  | true, c :: rest => withoutStylesFrom (c != 'm') rest
  | false, c :: rest =>
      if c = escape ∧ rest.head? = some '[' ∧ 'm' ∈ rest then withoutStylesFrom true rest
      else c :: withoutStylesFrom false rest

/-- A text without its style codes. -/
def withoutStyles (t : Text) : Text := withoutStylesFrom false t

@[simp] theorem withoutStyles_nil : withoutStyles [] = [] := rfl

/-- Only the escape character begins a code. -/
theorem withoutStyles_cons_of_ne (h : c ≠ escape) (t : Text) :
    withoutStyles (c :: t) = c :: withoutStyles t := by
  rw [withoutStyles, withoutStylesFrom, if_neg fun hcode => h hcode.1]
  rfl

/-- A text without the escape character is kept. -/
theorem withoutStyles_append_of_not_mem (h : escape ∉ t) (u : Text) :
    withoutStyles (t ++ u) = t ++ withoutStyles u := by
  induction t with
  | nil => rfl
  | cons c t ih =>
      rw [List.mem_cons, not_or] at h
      rw [List.cons_append, withoutStyles_cons_of_ne (Ne.symm h.1), ih h.2, List.cons_append]

/-- A code that has begun is deleted up to its end. -/
theorem withoutStylesFrom_true_append (h : 'm' ∉ inner) (t : Text) :
    withoutStylesFrom true (inner ++ 'm' :: t) = withoutStyles t := by
  induction inner with
  | nil => rfl
  | cons c inner ih =>
      rw [List.mem_cons, not_or] at h
      have hc : (c != 'm') = true := by simpa using Ne.symm h.1
      rw [List.cons_append, withoutStylesFrom, hc, ih h.2]

/-- A code at the front is deleted. -/
theorem withoutStyles_code_append (h : 'm' ∉ inner) (t : Text) :
    withoutStyles (escape :: '[' :: inner ++ 'm' :: t) = withoutStyles t := by
  have hinner : 'm' ∉ '[' :: inner := by
    rw [List.mem_cons, not_or]
    exact ⟨by decide, h⟩
  rw [withoutStyles, List.cons_append, List.cons_append, withoutStylesFrom,
    if_pos ⟨rfl, rfl, by simp⟩]
  exact withoutStylesFrom_true_append hinner t

/-- The codes that turn a style on are codes. -/
theorem withoutStyles_styleOn_append (style : Style) (t : Text) :
    withoutStyles (styleOn style ++ t) = withoutStyles t := by
  have hcode : 'm' ∉ style.code := by cases style <;> decide
  have hsplit : styleOn style ++ t = escape :: '[' :: style.code ++ 'm' :: t := by
    simp [styleOn]
  rw [hsplit, withoutStyles_code_append hcode]

/-- So is the one that turns them off. -/
theorem withoutStyles_styleOff_append (t : Text) :
    withoutStyles (styleOff ++ t) = withoutStyles t := by
  have hcode : 'm' ∉ ['0'] := by decide
  exact withoutStyles_code_append hcode t

/-- The codes between two cells are deleted. -/
theorem withoutStyles_change_append (before after : Option Style) (t : Text) :
    withoutStyles (change before after ++ t) = withoutStyles t := by
  have hon : ∀ u, withoutStyles ((after.map styleOn).getD [] ++ u) = withoutStyles u := by
    intro u
    cases after with
    | none => rfl
    | some style => exact withoutStyles_styleOn_append style u
  rw [change]
  split
  · rfl
  · split
    · rw [List.append_assoc, withoutStyles_styleOff_append, hon]
    · rw [List.nil_append, hon]

/-- Of cells with style codes the characters are left. -/
theorem withoutStyles_withCodes (h : ∀ cell ∈ line, cell.char ≠ escape) (current : Option Style)
    (t : Text) :
    withoutStyles (withCodes current line ++ t) = line.map Cell.char ++ withoutStyles t := by
  -- The style that is turned on changes from cell to cell, also where a piece ends.
  induction line generalizing current with
  | nil => exact withoutStyles_change_append current none t
  | cons cell rest ih =>
      rw [List.forall_mem_cons] at h
      rw [withCodes, List.append_assoc, withoutStyles_change_append, List.cons_append,
        withoutStyles_cons_of_ne h.1, List.map_cons, List.cons_append]
      split
      · rw [List.append_assoc, withoutStyles_change_append, ih h.2]
      · rw [ih h.2]

/-! ## Cells that are sent out -/

/-- What holds of a blank, and of the characters of some cells, holds when tabs have become
blanks. -/
theorem forall_mem_expandTabs {P : Char → Prop} (hblank : P ' ')
    (h : ∀ cell ∈ line, P cell.char) (column : Nat) :
    ∀ cell ∈ expandTabs columns column line, P cell.char := by
  have htab : ∀ column style, ∀ cell ∈ tabCells column style, P cell.char := by
    intro column style cell hcell
    rw [tabCells, List.mem_append, List.mem_replicate, List.mem_singleton] at hcell
    rcases hcell with ⟨-, rfl⟩ | rfl
    · exact hblank
    · exact hblank
  induction line generalizing column with
  | nil => exact h
  | cons cell rest ih =>
      rw [List.forall_mem_cons] at h
      rw [expandTabs]
      split
      · exact List.forall_mem_cons.2 ⟨h.1, ih h.2 0⟩
      · split
        · exact List.forall_mem_append.2 ⟨htab _ _, ih h.2 _⟩
        · exact List.forall_mem_cons.2 ⟨h.1, ih h.2 _⟩

/-- What holds of a blank and of a line feed, and of the characters of a line, holds of all that is
sent out for it. -/
theorem forall_mem_sent {P : Char → Prop} (hblank : P ' ') (hfeed : P '\n')
    (h : ∀ cell ∈ line, P cell.char) : ∀ cell ∈ sent columns line, P cell.char := by
  rw [sent, List.forall_mem_append, List.forall_mem_singleton]
  exact ⟨forall_mem_expandTabs hblank (fun cell hcell => h cell (List.mem_filter.1 hcell).1) 0,
    hfeed⟩

/-- Where there is no tab, none becomes blanks. -/
theorem expandTabs_of_forall_ne (h : ∀ cell ∈ line, cell.char ≠ '\t') (column : Nat) :
    expandTabs columns column line = line := by
  induction line generalizing column with
  | nil => rfl
  | cons cell rest ih =>
      rw [List.forall_mem_cons] at h
      rw [expandTabs]
      split
      · rw [ih h.2]
      · rw [if_neg h.1, ih h.2]

/-- A line with neither tabs nor characters that are dropped is sent out as it is. -/
theorem sent_of_forall_ne (htab : ∀ cell ∈ line, cell.char ≠ '\t')
    (hdropped : ∀ cell ∈ line, isDropped cell.char = false) :
    sent columns line = line ++ [⟨'\n', none, false⟩] := by
  have hkept : line.filter (fun cell => !isDropped cell.char) = line :=
    List.filter_eq_self.2 fun cell hcell => by rw [hdropped cell hcell]; rfl
  rw [sent, hkept, expandTabs_of_forall_ne htab]

/-! ## Lines -/

/-- A line that is written with codes is, without them, the line that is written without codes. -/
theorem withoutStyles_write_append (h : ∀ cell ∈ line, cell.char ≠ escape) (color : Bool)
    (t : Text) : withoutStyles (write columns color line ++ t)
      = write columns false line ++ withoutStyles t := by
  have hsent : ∀ cell ∈ sent columns line, cell.char ≠ escape :=
    forall_mem_sent (P := (· ≠ escape)) (by decide) (by decide) h
  cases color with
  | true => exact withoutStyles_withCodes hsent none t
  | false =>
      refine withoutStyles_append_of_not_mem (fun hmem => ?_) t
      obtain ⟨cell, hcell, hchar⟩ := List.mem_map.1 hmem
      exact hsent cell hcell hchar

end LintMend.Screen

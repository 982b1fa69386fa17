import LintMend.Display.Report
import LintMend.Proofs.Display.Screen
import LintMend.Proofs.Finding.Printed
import LintMend.Proofs.Mend.GuardName
import LintMend.Proofs.Placed

/-! # What colour does to a report

Nothing but style codes tells a report with colour from one without it, and a report without colour
says just what the findings say.
* `Report.Absent`: whether a character is in no text that findings are shown with.
* `Report.placeLine`, `Report.fixesLine`, `Report.shownLines`: the two lines of a finding.
* `Report.not_mem_shownLines`: by cases on their parts, a control character that is absent is not
  in them either.
* `Report.Output.IsPlainOf`: whether an output is like another one, without colour.
* `Report.withoutStyles_findings`, `Report.withoutStyles_status`, `Report.findings_eq`: reports on
  such outputs.
* `Report.withoutStyles_reports`: the same of outputs in one environment. -/

namespace LintMend

open Text

/-- A word character is no control character of the plain set. -/
theorem Text.le_toNat_of_isWord {c : Char} (h : isWord c = true) : 0x20 ≤ c.toNat := by
  by_contra hlt
  rw [isWord, if_pos (by omega), Bool.or_eq_true] at h
  rcases h with halphanum | hline
  · exact hlt (of_isAlphanum (P := fun c => 0x20 ≤ c.toNat) (by decide) halphanum)
  · rw [beq_iff_eq.1 hline] at hlt
    exact hlt (by decide)

namespace Report

open Screen (escape isDropped withoutStyles)

variable {out plain : Output} {path : Text} {p : PlacedFinding} {ps : List PlacedFinding} {c : Char}

/-! ## Lines -/

/-- Whether a character is in none of the texts that findings are shown with. -/
structure Absent (c : Char) (path : Text) (ps : List PlacedFinding) : Prop where
  /-- Not in the path. -/
  path : c ∉ path
  /-- Not in a message. -/
  message : ∀ p ∈ ps, c ∉ p.finding.message
  /-- Not in a category. -/
  category : ∀ p ∈ ps, c ∉ p.finding.category

/-- What is in no text of some findings is in none of fewer. -/
theorem Absent.of_subset {qs : List PlacedFinding} (h : Absent c path ps) (hqs : qs ⊆ ps) :
    Absent c path qs :=
  ⟨h.path, fun q hq => h.message q (hqs hq), fun q hq => h.category q (hqs hq)⟩

/-- Where a finding is, and what it says. -/
def placeLine (path : Text) (p : PlacedFinding) : Text :=
  path ++ ":".toList ++ Numeral.write (p.line + 1) ++ ": [".toList ++ p.severity.label
    ++ "] cpplint: ".toList ++ p.finding.message ++ " [".toList ++ p.finding.category ++ "]".toList

/-- Which fixes it has. -/
def fixesLine (p : PlacedFinding) : Text :=
  "    fixes: ".toList ++ join "; ".toList (p.fixes.map Fix.name)

/-- The lines of a finding. -/
def shownLines (path : Text) (p : PlacedFinding) : List Text := [placeLine path p, fixesLine p]

/-- The lines of some findings, in order, as a text. -/
def shownText (path : Text) (ps : List PlacedFinding) : Text :=
  (ps.flatMap (shownLines path)).flatMap (· ++ ['\n'])

/-- The cells of the first line hold its characters. -/
theorem map_char_findingCells (path : Text) (p : PlacedFinding) :
    (findingCells path p).map Cell.char = placeLine path p := by
  have hopen : ": [".toList = ": ".toList ++ ['['] := by decide
  have hclose : "] cpplint: ".toList = ']' :: ' ' :: "cpplint: ".toList := by decide
  have hcolon : ":".toList = [':'] := by decide
  have hend : "]".toList = [']'] := by decide
  -- The cells are cut around the label, and the text is not.
  have hcut : ∀ number mark label tag message gap category : Text,
      (path ++ ':' :: number ++ mark) ++ ('[' :: label ++ [']'])
          ++ (' ' :: (tag ++ message) ++ gap ++ category ++ [']'])
        = path ++ [':'] ++ number ++ (mark ++ ['[']) ++ label ++ (']' :: ' ' :: tag) ++ message
          ++ gap ++ category ++ [']'] := by
    intros
    simp
  rw [findingCells, List.map_append, List.map_append, Screen.map_char_cells, Screen.map_char_cells,
    Screen.map_char_cells]
  refine (hcut _ _ _ _ _ _ _).trans ?_
  rw [← hopen, ← hclose, ← hcolon, ← hend]
  rfl

/-- The cells of the second line hold its characters. -/
theorem map_char_fixesCells (p : PlacedFinding) :
    (fixesCells p).map Cell.char = fixesLine p :=
  Screen.map_char_cells none _

/-- A text of other characters holds no control character of the plain set. -/
theorem not_mem_of_forall_le {t : Text} (hc : c.toNat < 0x20) (h : ∀ d ∈ t, 0x20 ≤ d.toNat) :
    c ∉ t := by
  intro hmem
  have hle := h c hmem
  omega

/-- No fixed text holds one. -/
theorem not_mem_fixed {t : Text} (hc : c.toNat < 0x20)
    (h : t.all (fun d => decide (0x20 ≤ d.toNat)) = true) : c ∉ t :=
  not_mem_of_forall_le hc fun d hd => of_decide_eq_true (List.all_eq_true.1 h d hd)

/-- The name of an offered fix holds no control character that is not in the category. -/
theorem not_mem_name (hc : c.toNat < 0x20) (hcategory : c ∉ p.finding.category) {fix : Fix}
    (hfix : fix ∈ p.fixes) : c ∉ fix.name := by
  have hend : c ∉ "'".toList := not_mem_fixed hc (by decide)
  rcases Fix.eq_of_mem_offered hfix with rfl | rfl | rfl
  · cases hname : GuardName.suggested? p.finding.message with
    | none => exact not_mem_fixed hc (t := "Fix header guard".toList) (by decide)
    | some name =>
        obtain ⟨hne, hword⟩ := GuardName.isWord_of_suggested? hname
        obtain ⟨first, word, rfl⟩ := List.exists_cons_of_ne_nil hne
        have hbegin : c ∉ "Use header guard '".toList := not_mem_fixed hc (by decide)
        have hinner : c ∉ first :: word :=
          not_mem_of_forall_le hc fun d hd => le_toNat_of_isWord (hword d hd)
        exact List.not_mem_append (List.not_mem_append hbegin hinner) hend
  · exact not_mem_fixed hc (t := "Add newline at end of file".toList) (by decide)
  · have hbegin : c ∉ "Add NOLINT for '".toList := not_mem_fixed hc (by decide)
    exact List.not_mem_append (List.not_mem_append hbegin hcategory) hend

/-- A control character that is not in the texts of a finding is not in its first line. -/
theorem not_mem_placeLine (hc : c.toNat < 0x20) (h : Absent c path ps) (hp : p ∈ ps) :
    c ∉ placeLine path p := by
  have hnumeral : c ∉ Numeral.write (p.line + 1) := not_mem_of_forall_le hc fun d hd =>
    of_isAlphanum (P := fun d => 0x20 ≤ d.toNat) (by decide)
      (by simp [Char.isAlphanum, (Numeral.isRun_write _).2 d hd])
  have hlabel : c ∉ p.severity.label := by
    cases p.severity with
    | high => exact not_mem_fixed hc (by decide)
    | medium => exact not_mem_fixed hc (by decide)
    | low => exact not_mem_fixed hc (by decide)
  -- From the left to the right, each fixed text together with what comes behind it.
  have hplace := List.not_mem_append (List.not_mem_append h.path
    (not_mem_fixed hc (t := ":".toList) (by decide))) hnumeral
  have hlabelled := List.not_mem_append (List.not_mem_append hplace
    (not_mem_fixed hc (t := ": [".toList) (by decide))) hlabel
  have hmessage := List.not_mem_append (List.not_mem_append hlabelled
    (not_mem_fixed hc (t := "] cpplint: ".toList) (by decide))) (h.message p hp)
  have hcategory := List.not_mem_append (List.not_mem_append hmessage
    (not_mem_fixed hc (t := " [".toList) (by decide))) (h.category p hp)
  exact List.not_mem_append hcategory (not_mem_fixed hc (by decide))

/-- Nor is it in the second line. -/
theorem not_mem_fixesLine (hc : c.toNat < 0x20) (h : Absent c path ps) (hp : p ∈ ps) :
    c ∉ fixesLine p := by
  refine List.not_mem_append (not_mem_fixed hc (by decide)) fun hjoin => ?_
  rcases mem_of_mem_join hjoin with hbetween | ⟨name, hname, hmem⟩
  · exact not_mem_fixed hc (by decide) hbetween
  · obtain ⟨fix, hfix, rfl⟩ := List.mem_map.1 hname
    exact not_mem_name hc (h.category p hp) hfix hmem

/-- Neither line holds it. -/
theorem not_mem_shownLines (hc : c.toNat < 0x20) (h : Absent c path ps) (hp : p ∈ ps) :
    ∀ l ∈ shownLines path p, c ∉ l := by
  rw [shownLines, List.forall_mem_cons, List.forall_mem_singleton]
  exact ⟨not_mem_placeLine hc h hp, not_mem_fixesLine hc h hp⟩

/-- Nor is it in the cells of the lines. -/
theorem ne_of_mem_cells (hc : c.toNat < 0x20) (h : Absent c path ps) (hp : p ∈ ps) :
    (∀ cell ∈ findingCells path p, cell.char ≠ c) ∧ ∀ cell ∈ fixesCells p, cell.char ≠ c := by
  constructor
  · rintro cell hcell rfl
    refine not_mem_placeLine hc h hp ?_
    rw [← map_char_findingCells]
    exact List.mem_map_of_mem hcell
  · rintro cell hcell rfl
    refine not_mem_fixesLine hc h hp ?_
    rw [← map_char_fixesCells]
    exact List.mem_map_of_mem hcell

/-! ## Outputs -/

/-- Whether an output is as wide as another one and begins status lines as it does, and gets no
style codes. -/
structure Output.IsPlainOf (plain out : Output) : Prop where
  /-- It has as many columns. -/
  width : plain.width = out.width
  /-- Characters are as wide on it. -/
  columns : plain.columns = out.columns
  /-- It has marks if the other one has. -/
  marks : plain.marks = out.marks
  /-- Style codes are not written to it. -/
  isColored : plain.isColored = false

/-- A line without its style codes is the line on the output that gets none. -/
theorem withoutStyles_line_append (h : plain.IsPlainOf out) {cells : List Cell}
    (hcells : ∀ cell ∈ cells, cell.char ≠ escape) (t : Text) :
    withoutStyles (line out cells ++ t) = line plain cells ++ withoutStyles t := by
  rw [line, line, h.width, h.columns, h.isColored]
  split
  · rfl
  · exact Screen.withoutStyles_write_append hcells _ t

/-- The lines of findings without their style codes. -/
theorem withoutStyles_findings (h : plain.IsPlainOf out) (habsent : Absent escape path ps) :
    withoutStyles (findings out path ps) = findings plain path ps := by
  induction ps with
  | nil => rfl
  | cons p ps ih =>
      obtain ⟨hplace, hfixes⟩ := ne_of_mem_cells (by decide) habsent List.mem_cons_self
      have hothers : withoutStyles (findings out path ps) = findings plain path ps :=
        ih (habsent.of_subset (List.subset_cons_self p ps))
      rw [findings] at hothers
      rw [findings, List.flatMap_cons, finding_eq, List.append_assoc,
        withoutStyles_line_append h hplace, withoutStyles_line_append h hfixes, hothers,
        ← List.append_assoc, ← finding_eq]
      rfl

/-- No mark of a status line begins a style code. -/
theorem not_mem_mark (kind : MessageKind) : escape ∉ kind.mark := by
  cases kind with
  | info => decide
  | success => decide
  | warning => decide
  | error => decide

/-- A status line without its style codes. -/
theorem withoutStyles_status (h : plain.IsPlainOf out) (kind : MessageKind) {message : Text}
    (hmessage : escape ∉ message) :
    withoutStyles (status out kind message) = status plain kind message := by
  -- The characters are those of the mark, if there is one, and of the message.
  have hcells : ∀ cell ∈ Screen.cells (some kind.style)
      ((if out.marks then kind.mark else []) ++ message), cell.char ≠ escape := by
    rintro cell hcell hchar
    have hmem := List.mem_map_of_mem (f := Cell.char) hcell
    rw [Screen.map_char_cells, hchar, List.mem_append] at hmem
    rcases hmem with hmark | hmem
    · split at hmark
      · exact not_mem_mark kind hmark
      · cases hmark
    · exact hmessage hmem
  have hline := withoutStyles_line_append h hcells []
  rw [List.append_nil, Screen.withoutStyles_nil, List.append_nil] at hline
  rw [status, status, h.marks]
  exact hline

/-- A line with nothing that is changed or dropped, on an output that gets no style codes. -/
theorem line_of_forall_ne (hplain : plain.isColored = false) {cells : List Cell}
    (htab : ∀ cell ∈ cells, cell.char ≠ '\t')
    (hdropped : ∀ cell ∈ cells, isDropped cell.char = false) :
    line plain cells = if plain.width = 0 then [] else cells.map Cell.char ++ ['\n'] := by
  rw [line, hplain, Screen.write, if_neg Bool.false_ne_true, Screen.sent_of_forall_ne htab hdropped,
    List.map_append]
  rfl

/-- The characters that are dropped are control characters. -/
theorem toNat_lt_of_isDropped (h : isDropped c = true) : c.toNat < 0x20 := by
  -- There are five of them; the bound is tried on each.
  have hall : ['\x07', '\x08', '\x0b', '\x0c', '\x0d'].all
      (fun d => decide (d.toNat < 0x20)) = true := by decide
  exact of_decide_eq_true (List.all_eq_true.1 hall c (List.contains_iff_mem.1 h))

/-- On an output that gets no style codes, findings are shown by their lines. -/
theorem findings_eq (hplain : plain.isColored = false) (htab : Absent '\t' path ps)
    (hdropped : ∀ c, isDropped c = true → Absent c path ps) :
    findings plain path ps = if plain.width = 0 then [] else shownText path ps := by
  have hfinding : ∀ p ∈ ps, finding plain path p
      = if plain.width = 0 then [] else (shownLines path p).flatMap (· ++ ['\n']) := by
    intro p hp
    have htabs := ne_of_mem_cells (by decide) htab hp
    -- a dropped character in a cell would be in one of the texts
    have hkept : ∀ cell, cell ∈ findingCells path p ∨ cell ∈ fixesCells p →
        isDropped cell.char = false := by
      intro cell hcell
      by_contra hdrop
      rw [Bool.not_eq_false] at hdrop
      have hnone := ne_of_mem_cells (toNat_lt_of_isDropped hdrop) (hdropped _ hdrop) hp
      rcases hcell with hcell | hcell
      · exact hnone.1 cell hcell rfl
      · exact hnone.2 cell hcell rfl
    rw [finding_eq, line_of_forall_ne hplain htabs.1 fun cell hcell => hkept cell (.inl hcell),
      line_of_forall_ne hplain htabs.2 fun cell hcell => hkept cell (.inr hcell),
      map_char_findingCells, map_char_fixesCells]
    split
    · rfl
    · simp [shownLines]
  rw [findings, List.flatMap_congr hfinding]
  split
  · simp
  · rw [shownText, List.flatMap_assoc]

/-! ## Terminals and other outputs -/

variable {env : Environment} {terminal other : Bool} {color uncolored : Option Bool}
  {columns : Char → Nat}

/-- What reports are written to on a console has the width of the console. -/
theorem Output.on_eq_map (con : Console) (env : Environment) (color : Option Bool)
    (marks : Bool) : Output.on con env color marks = (con.width env).map fun width =>
      ⟨con.terminal, con.takesCodes env, width, con.columns, color, marks⟩ := by
  rw [Output.on]
  cases con.width env <;> rfl

/-- On a plain console it has the width that the environment gives. -/
theorem Output.of_eq_map (env : Environment) (terminal : Bool) (color : Option Bool)
    (marks : Bool) (columns : Char → Nat) :
    Output.of env terminal color marks columns = (Terminal.width env terminal).map fun width =>
      ⟨terminal, Terminal.takesCodes env terminal, width, columns, color, marks⟩ :=
  Output.on_eq_map { Console.plain terminal with columns := columns } env color marks

/-- Where style codes can be sent, it does not matter for the width whether the output is a
terminal. -/
theorem width_eq_of_takesCodes (h : Terminal.takesCodes env terminal = true) (other : Bool) :
    Terminal.width env other = Terminal.width env terminal := by
  rw [Terminal.takesCodes, Bool.and_eq_true, Bool.not_eq_true'] at h
  simp [Terminal.width, h.2]

/-- What is the same on two outputs whenever one of them is the plain one of the other is the same
on two outputs of one environment, only one of which gets style codes. -/
theorem map_of_eq (hcolor : Terminal.takesCodes env terminal = true ∨ other = terminal)
    (huncolored : Terminal.takesCodes env other = false ∨ uncolored.getD other = false)
    (marks : Bool) {shown expected : Output → Text}
    (h : ∀ out plain, plain.IsPlainOf out → shown out = expected plain) :
    (Output.of env terminal color marks columns).map shown
      = (Output.of env other uncolored marks columns).map expected := by
  have hwidth : Terminal.width env other = Terminal.width env terminal := by
    rcases hcolor with hcodes | rfl
    · exact width_eq_of_takesCodes hcodes other
    · rfl
  rw [Output.of_eq_map, Output.of_eq_map, hwidth]
  cases Terminal.width env terminal with
  | error fault => rfl
  | ok width =>
      refine congrArg Except.ok (h _ _ ⟨rfl, rfl, rfl, ?_⟩)
      rw [Output.isColored, Bool.and_eq_false_iff]
      exact huncolored

/-- A report on an output that gets style codes is, without them, the report on one that gets none:
on the same output without colour, or on one that is no terminal. This is so for findings and for
status lines, however wide characters are. And if the texts of the findings hold neither tabs nor
line ends nor characters that are dropped, just the two lines of each finding are shown, in order,
unless the output has no column. -/
theorem withoutStyles_reports
    (hcolor : Terminal.takesCodes env terminal = true ∨ other = terminal)
    (huncolored : Terminal.takesCodes env other = false ∨ uncolored.getD other = false)
    (marks : Bool) (columns : Char → Nat) :
    (∀ path ps, Absent escape path ps →
        (Output.of env terminal color marks columns).map
            (fun out => withoutStyles (findings out path ps))
          = (Output.of env other uncolored marks columns).map fun plain => findings plain path ps)
      ∧ (∀ kind message, escape ∉ message →
        (Output.of env terminal color marks columns).map
            (fun out => withoutStyles (status out kind message))
          = (Output.of env other uncolored marks columns).map fun plain =>
            status plain kind message)
      ∧ ∀ path ps, (∀ c, c = '\t' ∨ c = '\n' ∨ isDropped c = true → Absent c path ps) →
        lines (shownText path ps) = ps.flatMap (shownLines path)
          ∧ (Output.of env other uncolored marks columns).map (fun plain => findings plain path ps)
            = (Terminal.width env other).map fun width =>
                if width = 0 then [] else shownText path ps := by
  refine ⟨fun path ps habsent => ?_, fun kind message hmessage => ?_, fun path ps habsent => ?_⟩
  · exact map_of_eq hcolor huncolored marks fun out plain h => withoutStyles_findings h habsent
  · exact map_of_eq hcolor huncolored marks fun out plain h => withoutStyles_status h kind hmessage
  · -- no line of a finding is broken, so there are as many as are written
    have hfeed : ∀ l ∈ ps.flatMap (shownLines path), '\n' ∉ l := by
      intro l hl
      obtain ⟨p, hp, hl⟩ := List.mem_flatMap.1 hl
      exact not_mem_shownLines (by decide) (habsent '\n' (.inr (.inl rfl))) hp l hl
    refine ⟨lines_flatMap hfeed, ?_⟩
    rw [Output.of_eq_map]
    cases Terminal.width env other with
    | error fault => rfl
    | ok width =>
        refine congrArg Except.ok (findings_eq ?_ (habsent '\t' (.inl rfl)) fun c hc =>
          habsent c (.inr (.inr hc)))
        rw [Output.isColored, Bool.and_eq_false_iff]
        exact huncolored

/-- A terminal with style codes. -/
def codedTerminal : Environment := ⟨[("TERM".toList, "xterm".toList)], []⟩

/-- Findings with a message that runs over two lines, one of which has a tab in it. -/
def tabbedFindings : List PlacedFinding :=
  [⟨⟨3, "Tab found:\tuse spaces\r\ninstead".toList, "whitespace/tab".toList, 5⟩, 2,
      ⟨9, 12, by decide⟩⟩,
    ⟨⟨0, "No header guard found, please use: A_H_".toList, "build/header_guard".toList, 4⟩, 0,
      ⟨0, 0, by decide⟩⟩]

/-- Findings whose texts look like markup. -/
def bracketedFindings : List PlacedFinding :=
  [⟨⟨1, "[bold]x[/bold] :smile:".toList, "runtime/[red]".toList, 1⟩, 0,
    ⟨0, 1, by decide⟩⟩]

/-- How they are shown without colour. -/
example :
    findings ⟨false, false, 80, Screen.plainColumns, none, true⟩ "a.h".toList bracketedFindings
    = ("a.h:1: [weak warning] cpplint: [bold]x[/bold] :smile: [runtime/[red]]\n".toList
      ++ "    fixes: Add NOLINT for 'runtime/[red]'\n".toList) := by decide +kernel

/-- What becomes of such findings, and of a status line with a tab, on a terminal and elsewhere. -/
theorem withoutStyles_reports_tabbedFindings :
    Terminal.takesCodes codedTerminal true = true ∧ Absent escape "a\tb.h".toList tabbedFindings
      ∧ (Output.of codedTerminal true (some true) true).map
          (fun out => withoutStyles (findings out "a\tb.h".toList tabbedFindings))
        = (Output.of codedTerminal false none true).map
          (fun plain => findings plain "a\tb.h".toList tabbedFindings)
      ∧ (Output.of codedTerminal true (some true) true).map
          (fun out => withoutStyles (status out .error "no\tfile\n".toList))
        = (Output.of codedTerminal false none true).map
          (fun plain => status plain .error "no\tfile\n".toList)
      ∧ lines (shownText "a.h".toList bracketedFindings)
        = bracketedFindings.flatMap (shownLines "a.h".toList)
      ∧ (Output.of codedTerminal false none true).map
          (fun plain => findings plain "a.h".toList bracketedFindings)
        = .ok (shownText "a.h".toList bracketedFindings) := by
  have hcodes : Terminal.takesCodes codedTerminal true = true := by decide
  have habsent : Absent escape "a\tb.h".toList tabbedFindings :=
    ⟨by decide, by decide, by decide⟩
  obtain ⟨hfindings, hstatus, hshown⟩ :=
    @withoutStyles_reports codedTerminal true false (some true) none (.inl hcodes) (.inr rfl) true
      Screen.plainColumns
  have hplain : ∀ c, c = '\t' ∨ c = '\n' ∨ isDropped c = true →
      Absent c "a.h".toList bracketedFindings := by
    have hall : ['\t', '\n', '\x07', '\x08', '\x0b', '\x0c', '\x0d'].all (fun c => decide
        (c ∉ "a.h".toList ∧ (∀ p ∈ bracketedFindings, c ∉ p.finding.message)
          ∧ ∀ p ∈ bracketedFindings, c ∉ p.finding.category)) = true := by decide
    intro c hc
    have hmem : c ∈ ['\t', '\n', '\x07', '\x08', '\x0b', '\x0c', '\x0d'] := by
      rcases hc with rfl | rfl | hdropped
      · decide
      · decide
      · exact List.mem_cons_of_mem _ (List.mem_cons_of_mem _ (List.contains_iff_mem.1 hdropped))
    obtain ⟨hpath, hmessage, hcategory⟩ := of_decide_eq_true (List.all_eq_true.1 hall c hmem)
    exact ⟨hpath, hmessage, hcategory⟩
  obtain ⟨hlines, htext⟩ := hshown _ _ hplain
  refine ⟨hcodes, habsent, hfindings _ _ habsent, hstatus _ _ (by decide), hlines, htext.trans ?_⟩
  rfl

end Report

end LintMend

import LintMend.Lint.Run
import LintMend.Proofs.Finding.Grammar
import LintMend.Proofs.Placed
import LintMend.Proofs.Text.Octets
import LintMend.Proofs.Text.PlainLines

/-! # Reports

What the lines that the checker writes come to. A line states a finding, or none, or its line number
is too long, and then nothing after it is read.
* `Finding.ofLine?`, `Finding.IsReadable`: the finding that a line states, and whether its line
  number can be read.
* `Finding.ofLines_of_readable`, `Finding.ofLines_of_overlong`: the findings of some lines, all of
  which can be read, or of which one cannot.
* `PlacedFinding.ofLines`: these findings in their places.
* `Child.lines`, `Child.read_fst`: the lines of a report, and those of them that are read.
* `Child.lines_printing`: every list of lines is that of a report.
* `Runner.placeLines_eq_error_iff`, `Runner.eq_ofLines_of_placeLines`: what is collected from the
  lines that are read. -/

namespace LintMend

open Text

/-! ## Single lines -/

namespace Finding

/-- Whether the line number of a line can be read, if the line is a diagnostic. -/
def IsReadable (line : Text) : Prop :=
  ∀ r : Reading, r.CountsFor (trimLineEnd line) → r.line.length ≤ Numeral.maxDigits

/-- Only a very long line cannot be read. -/
theorem isReadable_of_length_le {line : Text} (h : line.length ≤ Numeral.maxDigits) :
    IsReadable line := by
  intro r hr
  have hline : r.line.length ≤ r.text.length := by
    simp only [Reading.text, List.length_append, List.length_cons]
    omega
  have htrim : (trimLineEnd line).length ≤ line.length := by
    unfold trimLineEnd trimEndOf
    rw [List.length_reverse]
    exact (List.dropWhile_sublist _).length_le.trans_eq List.length_reverse
  rw [hr.1.2] at hline
  exact hline.trans (htrim.trans h)

/-- The finding that a line states, if it states one. -/
def ofLine? (line : Text) : Option Finding := ((ofText? (trimLineEnd line)).toOption).join

/-- A line that can be read states a finding or none. -/
theorem ofText?_of_isReadable {line : Text} (h : IsReadable line) :
    ofText? (trimLineEnd line) = .ok (ofLine? line) := by
  rw [ofLine?]
  cases hread : Reading.ofText? (trimLineEnd line) with
  | none => rw [ofText?_of_forall_not (Reading.ofText?_eq_none_iff.1 hread)]; rfl
  | some r =>
      have hr := Reading.ofText?_eq_some_iff.1 hread
      have hfinding : ofText? (trimLineEnd line) = .ok (some r.finding) :=
        (ofText?_of_countsFor hr).trans (if_pos (h r hr))
      rw [hfinding]
      rfl

/-- A line that cannot be read has a line number that is too long. -/
theorem ofText?_of_overlong {line : Text} {r : Reading} (hr : r.CountsFor (trimLineEnd line))
    (hlong : Numeral.maxDigits < r.line.length) :
    ofText? (trimLineEnd line) = .error ⟨r.line.length⟩ := by
  rw [ofText?_of_countsFor hr]
  exact if_neg (Nat.not_le.2 hlong)

/-! ## Several lines -/

/-- Lines that can be read come to the findings that they state, in order. -/
theorem ofLines_of_readable {ls : List Text} (h : ∀ line ∈ ls, IsReadable line) :
    ofLines ls = (ls.filterMap ofLine?, none) := by
  induction ls with
  | nil => rfl
  | cons line ls ih =>
      obtain ⟨hline, hothers⟩ := List.forall_mem_cons.1 h
      rw [ofLines, ofText?_of_isReadable hline, List.filterMap_cons, ih hothers]
      cases ofLine? line <;> rfl

/-- The first line that cannot be read ends the reading. -/
theorem ofLines_of_overlong {front back : List Text} {line : Text} {r : Reading}
    (hfront : ∀ l ∈ front, IsReadable l) (hr : r.CountsFor (trimLineEnd line))
    (hlong : Numeral.maxDigits < r.line.length) :
    ofLines (front ++ line :: back) = (front.filterMap ofLine?, some ⟨r.line.length⟩) := by
  induction front with
  | nil =>
      rw [List.nil_append, ofLines, ofText?_of_overlong hr hlong]
      rfl
  | cons l front ih =>
      obtain ⟨hl, hothers⟩ := List.forall_mem_cons.1 hfront
      rw [List.cons_append, ofLines, ofText?_of_isReadable hl, List.filterMap_cons, ih hothers]
      cases ofLine? l <;> rfl

/-- All lines can be read, or there is a first one that cannot. -/
theorem readable_or_exists_overlong (ls : List Text) :
    (∀ line ∈ ls, IsReadable line) ∨ ∃ front line back, ∃ r : Reading,
      ls = front ++ line :: back ∧ (∀ l ∈ front, IsReadable l)
        ∧ r.CountsFor (trimLineEnd line) ∧ Numeral.maxDigits < r.line.length := by
  induction ls with
  | nil => exact .inl fun line hline => absurd hline List.not_mem_nil
  | cons line ls ih =>
      by_cases hline : IsReadable line
      · rcases ih with hall | ⟨front, other, back, r, rfl, hfront, hr, hlong⟩
        · exact .inl (List.forall_mem_cons.2 ⟨hline, hall⟩)
        · exact .inr ⟨line :: front, other, back, r, rfl, List.forall_mem_cons.2 ⟨hline, hfront⟩,
            hr, hlong⟩
      · -- the line has a reading that counts, with too many digits
        obtain ⟨r, hr⟩ := not_forall.1 hline
        obtain ⟨hcounts, hlong⟩ := Classical.not_imp.1 hr
        exact .inr ⟨[], line, ls, r, rfl, by simp, hcounts, Nat.lt_of_not_le hlong⟩

end Finding

/-! ## Placed findings -/

namespace PlacedFinding

/-- The findings that some lines state, in their places in a document. -/
def ofLines (d : Document) (ls : List Text) : List PlacedFinding :=
  (ls.filterMap Finding.ofLine?).filterMap (place? d)

/-- The findings of lines after others come after theirs. -/
theorem ofLines_append (d : Document) (ls others : List Text) :
    ofLines d (ls ++ others) = ofLines d ls ++ ofLines d others := by
  rw [ofLines, List.filterMap_append, List.filterMap_append]
  rfl

/-- Every finding is in its place. -/
theorem fitsIn_of_mem_ofLines {d : Document} {ls : List Text} {p : PlacedFinding}
    (h : p ∈ ofLines d ls) : p.FitsIn d := by
  obtain ⟨f, -, hplace⟩ := List.mem_filterMap.1 h
  exact (fitsIn_of_place? hplace).2

/-- In a document that is not empty each finding has its place, and in the empty one none has. -/
theorem map_finding_ofLines (d : Document) (ls : List Text) :
    (ofLines d ls).map finding = if d.text = [] then [] else ls.filterMap Finding.ofLine? := by
  rw [ofLines]
  split
  · next hempty =>
      have hnone : ∀ f, place? d f = none := fun f => place?_eq_none_iff.2 hempty
      rw [List.filterMap_eq_nil_iff.2 fun f _ => hnone f]
      rfl
  · next hne =>
      rw [List.map_filterMap]
      refine Eq.trans (List.filterMap_congr fun f _ => ?_) List.filterMap_some
      cases hplace : place? d f with
      | none => exact absurd (place?_eq_none_iff.1 hplace) hne
      | some p => exact congrArg some (fitsIn_of_place? hplace).1

end PlacedFinding

/-! ## Reports as they are read -/

namespace Child

/-- The lines of a report; none if there is no report. -/
def lines (child : Child) : List Text :=
  match child.report with
  | none => []
  | some content => Text.lines (Document.decodeFile content)

/-- The lines that are read: all of them, or as many as are read before a failure. -/
theorem read_fst (child : Child) :
    child.read.1 = match child.failure with
      | none => child.lines
      | some f => child.lines.take f.after := by
  rw [read, lines]
  cases child.report with
  | none => cases child.failure <;> simp
  | some content =>
      cases child.failure with
      | none => rfl
      | some f =>
          dsimp only
          rw [readReport]
          split
          · rfl
          · next hfew => rw [List.take_of_length_le (by omega)]

/-- A checker that prints some lines, each with a line feed, and does not fail. -/
def printing (ls : List Text) : Child := ⟨some (encode (ls.flatMap (· ++ ['\n']))), none⟩

/-- Whatever lines a checker prints, they are the lines of its report. -/
theorem lines_printing {ls : List Text} (h : ∀ l ∈ ls, IsPlain l) : (printing ls).lines = ls := by
  have hcarriage : '\r' ∉ ls.flatMap (· ++ ['\n']) := by
    intro hmem
    obtain ⟨l, hl, hmem⟩ := List.mem_flatMap.1 hmem
    rcases List.mem_append.1 hmem with hin | hin
    · exact (h l hl).carriage hin
    · exact absurd hin (by decide)
  show Text.lines (unifyNewlines (decodeLossy (encode _))) = ls
  rw [decodeLossy_encode, unifyNewlines_of_not_mem hcarriage,
    lines_flatMap fun l hl => (h l hl).feed]

end Child

/-! ## What is collected -/

namespace Runner

/-- The findings that are collected are those of the lines that are read. -/
theorem collect_fst (d : Document) (file directory : Text) (argv : List Text) (child : Child) :
    (collect d file directory argv child).1 = placeLines d child.read.1 := by
  rw [collect]
  rcases child.read with ⟨ls, failure⟩
  cases hplaced : placeLines d ls with
  | error fault => simp [hplaced]
  | ok found => cases failure <;> simp [hplaced]

/-- Collecting findings shows no notification, also if reading fails. -/
theorem notifications_collect (d : Document) (file directory : Text) (argv : List Text)
    (child : Child) : (collect d file directory argv child).2.notifications = [] := by
  unfold collect
  rcases child.read with ⟨ls, failure⟩
  dsimp only
  split <;> rfl

/-- Lines that can be read come to the placed findings that they state. -/
theorem placeLines_of_readable (d : Document) {ls : List Text}
    (h : ∀ line ∈ ls, Finding.IsReadable line) :
    placeLines d ls = .ok (PlacedFinding.ofLines d ls) := by
  rw [placeLines, Finding.ofLines_of_readable h]
  rfl

/-- A line that cannot be read loses all findings. -/
theorem placeLines_of_overlong (d : Document) {front back : List Text} {line : Text} {r : Reading}
    (hfront : ∀ l ∈ front, Finding.IsReadable l)
    (hr : r.CountsFor (Finding.trimLineEnd line)) (hlong : Numeral.maxDigits < r.line.length) :
    placeLines d (front ++ line :: back) = .error (.overlong ⟨r.line.length⟩) := by
  rw [placeLines, Finding.ofLines_of_overlong hfront hr hlong]

/-- Only a first line that cannot be read loses the findings. -/
theorem placeLines_eq_error_iff {d : Document} {ls : List Text} {fault : RunFault} :
    placeLines d ls = .error fault
      ↔ ∃ front line back, ∃ r : Reading, ls = front ++ line :: back
        ∧ (∀ l ∈ front, Finding.IsReadable l) ∧ r.CountsFor (Finding.trimLineEnd line)
        ∧ Numeral.maxDigits < r.line.length ∧ fault = .overlong ⟨r.line.length⟩ := by
  constructor
  · intro h
    rcases Finding.readable_or_exists_overlong ls with hall
      | ⟨front, line, back, r, rfl, hfront, hr, hlong⟩
    · rw [placeLines_of_readable d hall] at h
      cases h
    · rw [placeLines_of_overlong d hfront hr hlong] at h
      exact ⟨front, line, back, r, rfl, hfront, hr, hlong, (Except.error.inj h).symm⟩
  · rintro ⟨front, line, back, r, rfl, hfront, hr, hlong, rfl⟩
    exact placeLines_of_overlong d hfront hr hlong

/-- What is not lost are the placed findings that the lines state. -/
theorem eq_ofLines_of_placeLines {d : Document} {ls : List Text} {found : List PlacedFinding}
    (h : placeLines d ls = .ok found) : found = PlacedFinding.ofLines d ls := by
  rcases Finding.readable_or_exists_overlong ls with hall
    | ⟨front, line, back, r, rfl, hfront, hr, hlong⟩
  · rw [placeLines_of_readable d hall] at h
    exact (Except.ok.inj h).symm
  · rw [placeLines_of_overlong d hfront hr hlong] at h
    cases h

end Runner

end LintMend

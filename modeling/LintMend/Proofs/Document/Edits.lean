import LintMend.Document.Basic
import LintMend.Proofs.Text.Splicing

/-! # Documents under edit

A document takes edits at any whole numbers. One of a stretch that it does not have is refused and
changes nothing, and whatever the others make of its text, the line table keeps to it.
* `Edit`, `Document.edit`: replacing a stretch, or putting a text in; `edit_eq` says which edits are
  refused and what the others do.
* `Document.afterEdits`: what a run of edits leaves; `afterEdits_accepted` says that those that are
  refused leave no trace.
* `Document.ReadsTable`: the lines of a document are asked for by number, and the line table
  answers.
* `Document.tiles_afterEdits`: after any edits the lines tile the text.
* `Document.keepsLines_replace`: an edit leaves the lines before it and behind it, and can be taken
  back. -/

namespace LintMend

open Text

/-- An edit of a document. -/
inductive Edit
  /-- Replace the stretch from one offset to another. -/
  | replace (start stop : Int) (new : Text)
  /-- Put a text in at an offset. -/
  | insert (offset : Int) (new : Text)

namespace Edit

/-- Where the stretch that is replaced begins. -/
def start : Edit → Int
  | replace start _ _ => start
  | insert offset _ => offset

/-- Where the stretch that is replaced ends. -/
def stop : Edit → Int
  | replace _ stop _ => stop
  | insert offset _ => offset

/-- What takes the place of the stretch. -/
def new : Edit → Text
  | replace _ _ new => new
  | insert _ new => new

/-- Whether a text has the stretch that an edit replaces. -/
def Fits (e : Edit) (t : Text) : Prop := 0 ≤ e.start ∧ e.start ≤ e.stop ∧ e.stop ≤ t.length

instance (e : Edit) (t : Text) : Decidable (e.Fits t) := inferInstanceAs (Decidable (_ ∧ _))

end Edit

namespace Document

variable {d : Document} {e : Edit}

/-! ## Runs of edits -/

/-- The document with an edit made, or why it is refused. -/
def edit (d : Document) : Edit → Except DocumentFault Document
  | .replace start stop new => d.replace start stop new
  | .insert offset new => d.insert offset new

/-- What an edit leaves: the document as it was if it is refused. -/
def afterEdit (d : Document) (e : Edit) : Document :=
  match d.edit e with
  | .ok edited => edited
  | .error _ => d

/-- What a run of edits leaves. -/
def afterEdits (d : Document) (edits : List Edit) : Document := edits.foldl afterEdit d

/-- An edit replaces its stretch if there is one, and is refused with its offsets otherwise. -/
theorem edit_eq (d : Document) (e : Edit) :
    d.edit e = if e.Fits d.text then
        .ok (d.withText (splice d.text e.start.toNat e.stop.toNat e.new))
      else .error (.noStretch e.start e.stop d.text.length) := by
  cases e with
  | replace start stop new => rfl
  | insert offset new => rfl

/-- An edit of a stretch that there is replaces it. -/
theorem afterEdit_of_fits (h : e.Fits d.text) :
    d.afterEdit e = d.withText (splice d.text e.start.toNat e.stop.toNat e.new) := by
  rw [afterEdit, edit_eq, if_pos h]

/-- An edit that is refused changes nothing. -/
theorem afterEdit_of_not_fits (h : ¬e.Fits d.text) : d.afterEdit e = d := by
  rw [afterEdit, edit_eq, if_neg h]

/-- The last edit is made where the ones before it lead. -/
theorem afterEdits_concat (d : Document) (edits : List Edit) (e : Edit) :
    d.afterEdits (edits ++ [e]) = (d.afterEdits edits).afterEdit e := List.foldl_append

/-- Those of some edits that are not refused. -/
def accepted (d : Document) : List Edit → List Edit
  | [] => []
  | e :: edits => (if e.Fits d.text then [e] else []) ++ (d.afterEdit e).accepted edits

/-- Edits that are refused leave no trace in a run. -/
theorem afterEdits_accepted (d : Document) (edits : List Edit) :
    d.afterEdits (d.accepted edits) = d.afterEdits edits := by
  induction edits generalizing d with
  | nil => rfl
  | cons e edits ih =>
      have hfirst : d.afterEdits (e :: edits) = (d.afterEdit e).afterEdits edits := rfl
      rw [accepted, hfirst, ← ih (d.afterEdit e)]
      by_cases h : e.Fits d.text
      · rw [if_pos h]
        rfl
      · rw [if_neg h, afterEdit_of_not_fits h]
        rfl

/-! ## Lines by their numbers -/

/-- Whether the lines of a document are those of its line table: a line that there is has the
offsets and the text that the table gives it, and any other is refused with its number. -/
structure ReadsTable (d : Document) : Prop where
  /-- A line that there is. -/
  line : ∀ n : Nat, n < d.lineCount → d.lineStart n = .ok (Text.lineStart d.text n)
    ∧ d.lineEnd n = .ok (Text.lineEnd d.text n) ∧ d.lineText n = .ok (Text.lineText d.text n)
  /-- A line that there is not. -/
  noLine : ∀ n : Int, ¬(0 ≤ n ∧ n < d.lineCount) →
    d.lineStart n = .error (.noLine n d.lineCount) ∧ d.lineEnd n = .error (.noLine n d.lineCount)
      ∧ d.lineText n = .error (.noLine n d.lineCount)

/-- The lines of every document are. -/
theorem readsTable (d : Document) : d.ReadsTable where
  line n hn := by
    have hcheck : d.checkLine n = .ok n := checkLine_eq_ok_iff.2 ⟨rfl, hn⟩
    rw [lineStart, lineEnd, lineText, hcheck, d.buffer.lineStart_eq, d.buffer.lineEnd_eq,
      d.buffer.lineText_eq]
    exact ⟨rfl, rfl, rfl⟩
  noLine n hn := by
    have hcheck : d.checkLine n = .error (.noLine n d.lineCount) := if_neg hn
    rw [lineStart, lineEnd, lineText, hcheck]
    exact ⟨rfl, rfl, rfl⟩

/-- After any edits the lines of a document tile its text, and are those that it answers with. The
edits that were refused have left no trace. The next one is refused if the text has no such stretch,
and then nothing changes; otherwise the stretch is replaced. -/
theorem tiles_afterEdits (d : Document) (edits : List Edit) :
    Tiles (d.afterEdits edits).text ∧ (d.afterEdits edits).ReadsTable
      ∧ d.afterEdits (d.accepted edits) = d.afterEdits edits
      ∧ ∀ e : Edit,
          (¬e.Fits (d.afterEdits edits).text →
            (d.afterEdits edits).edit e
                = .error (.noStretch e.start e.stop (d.afterEdits edits).text.length)
              ∧ d.afterEdits (edits ++ [e]) = d.afterEdits edits)
          ∧ (e.Fits (d.afterEdits edits).text →
            (d.afterEdits edits).edit e = .ok (d.afterEdits (edits ++ [e]))
              ∧ (d.afterEdits (edits ++ [e])).text
                = (d.afterEdits edits).text.take e.start.toNat ++ e.new
                  ++ (d.afterEdits edits).text.drop e.stop.toNat) := by
  refine ⟨tiles _, readsTable _, afterEdits_accepted d edits, fun e => ⟨fun h => ?_, fun h => ?_⟩⟩
  · rw [afterEdits_concat, afterEdit_of_not_fits h, edit_eq, if_neg h]
    exact ⟨rfl, rfl⟩
  · rw [afterEdits_concat, afterEdit_of_fits h, edit_eq, if_pos h]
    exact ⟨rfl, rfl⟩

/-! ## One edit -/

/-- A stretch that there is can be replaced. -/
theorem replace_of_le {start stop : Nat} (h : start ≤ stop) (hstop : stop ≤ d.text.length)
    (new : Text) : d.replace start stop new = .ok (d.withText (splice d.text start stop new)) := by
  rw [replace, if_pos (by omega)]
  rfl

/-- Replacing a stretch leaves the lines before it and behind it, and is taken back by putting the
old stretch in the place of the new one. -/
theorem keepsLines_replace {start stop : Nat} (h : start ≤ stop) (hstop : stop ≤ d.text.length)
    (new : Text) :
    ∃ e, d.replace start stop new = .ok e
      ∧ e.text = d.text.take start ++ new ++ d.text.drop stop
      ∧ KeepsLines start stop new d.text e.text
      ∧ e.replace start (start + new.length : Nat) (slice d.text start stop) = .ok d := by
  refine ⟨_, replace_of_le h hstop new, rfl, keepsLines_splice h new, ?_⟩
  have hlength := length_splice_add h hstop new
  have hstretch : start + new.length ≤ (splice d.text start stop new).length := by omega
  rw [replace_of_le (Nat.le_add_right _ _) hstretch, text_withText, splice_splice h hstop]
  exact congrArg Except.ok (withText_text d)

/-- A document with line ends of both kinds. -/
def mixedDocument : Document := ⟨"ab\r\ncd\r\nef\n".toList, none, none, []⟩

/-- An edit that takes half of what ends the second line, and puts two lines in its place, leaves
the first line where it is and moves the third one down, and is taken back. -/
theorem keepsLines_replace_mixedDocument :
    (5 ≤ 7 ∧ 7 ≤ mixedDocument.text.length)
    ∧ ∃ e, mixedDocument.replace 5 7 "X\nY\n".toList = .ok e
      ∧ e.text = "ab\r\ncX\nY\n\nef\n".toList
      ∧ (Text.lineText e.text 0 = "ab".toList ∧ lineEnding e.text 0 = "\r\n".toList)
      ∧ (Text.lineStart e.text 4 = 10 ∧ Text.lineText e.text 4 = "ef".toList)
      ∧ e.replace 5 9 "d\r".toList = .ok mixedDocument := by
  have horder : 5 ≤ 7 := by decide
  have hstop : 7 ≤ mixedDocument.text.length := by decide
  obtain ⟨e, hedit, htext, hkeeps, hback⟩ := keepsLines_replace horder hstop "X\nY\n".toList
  obtain ⟨-, -, -, hfirst, hends⟩ := hkeeps.before 0 (by decide) (by decide)
  obtain ⟨m, -, hm, hstart, hthird, -⟩ := hkeeps.after 2 (by decide) (by decide)
  obtain rfl : m = 4 := hm
  have hmoved : Text.lineStart e.text 4 = 10 := Nat.add_right_cancel hstart
  exact ⟨⟨horder, hstop⟩, e, hedit, htext, ⟨hfirst, hends⟩, ⟨hmoved, hthird⟩, hback⟩

end Document

end LintMend

import LintMend.Proofs.CommandLine.Lint
import LintMend.Proofs.Mend.KeptLines
import LintMend.Proofs.Text.Octets

/-! # What saving leaves of a file

A document that is loaded from a file and saved is the file with its line ends unified: reading the
text turns every carriage return, alone or before a line feed, into a line feed, and nothing turns
it back. So a file without carriage returns is left as it was, and when `lint` mends it, so is every
line that no fix edits; a file with line ends of both characters loses one of them on every line.
* `Text.unifyNewlines_eq_self_iff`: which texts are left alone when line ends are unified.
* `CommandLine.LintRun.exists_kept`: what mending leaves of the lines of a file.
* `Document.save_load`: loading, saving, and mending. -/

namespace LintMend

open Text

/-- Line ends are unified already exactly in a text without carriage returns. -/
theorem Text.unifyNewlines_eq_self_iff {t : Text} : unifyNewlines t = t ↔ '\r' ∉ t := by
  refine ⟨fun h => ?_, unifyNewlines_of_not_mem⟩
  have hunified := not_mem_unifyNewlines t
  rwa [h] at hunified

/-- Texts with the same octets are the same. -/
theorem Text.encode_inj {t u : Text} : encode t = encode u ↔ t = u := by
  refine ⟨fun h => ?_, congrArg encode⟩
  have hdecoded := congrArg decode h
  rw [decode_encode, decode_encode] at hdecoded
  exact Except.ok.inj hdecoded

namespace CommandLine

variable {call : Call} {parsed : Parsed Switch} {file : Text}

/-- Unless `lint` leaves all files alone, it leaves in the file each line that no fix edits, and
what ends it, as they were in the document. -/
theorem LintRun.exists_kept (r : LintRun call parsed file) {ps : List PlacedFinding}
    (hrun : r.outcome.value = .ok ps) :
    (lint call parsed file []).files = call.files ∨ ∃ steps u, PlacedFinding.ArePicked ps steps
      ∧ (lint call parsed file []).files.read (lintTarget call file).text = .ok (encode u)
      ∧ ∀ n, Fix.Leaves r.document steps n →
          (rows u)[n + Fix.shiftBy r.document steps]? = (rows r.document.text)[n]? := by
  have hpicked := PlacedFinding.arePicked_picked ps
  have hfault := (PlacedFinding.mend_eq_run (r.line_lt_of_value_outcome hrun)).1
  have htame : ∀ step ∈ PlacedFinding.picked ps, step.1.IsTame := fun step hstep => by
    obtain ⟨p, -, hspecific, -⟩ := hpicked.line step hstep
    exact Fix.isTame_of_specific? hspecific
  refine (r.spares_lint hrun).imp_right fun ⟨_, _, hafter⟩ => ?_
  exact ⟨_, _, hpicked, hafter.read, fun n hn => Fix.getElem?_rows_run htame hfault hn⟩

end CommandLine

/-- A file that holds a text is loaded, and its document saved, with the line ends unified, so just
the files without carriage returns are left as they were. When `lint` mends such a file, each line
that no fix edits is left as it is in the document, with what ends it. -/
theorem Document.save_load {fs : Files} {path : Path} {t : Text}
    (h : fs.read path.text = .ok (encode t)) (root : Option Path) :
    ∃ d saved, load fs path root = .ok d ∧ d.text = unifyNewlines t
      ∧ d.save fs = .ok saved ∧ fs.Rewritten path.text (encode (unifyNewlines t)) saved
      ∧ (saved.read path.text = fs.read path.text ↔ '\r' ∉ t)
      ∧ ('\r' ∉ t → ∀ place, saved.standsAt? place = fs.standsAt? place)
      ∧ ∀ {call parsed file} (r : CommandLine.LintRun call parsed file), call.files = fs →
          CommandLine.lintTarget call file = path → ∀ ps, r.outcome.value = .ok ps →
            (CommandLine.lint call parsed file []).files = fs
              ∨ ∃ steps u, PlacedFinding.ArePicked ps steps
                ∧ (CommandLine.lint call parsed file []).files.read path.text = .ok (encode u)
                ∧ ∀ n, Fix.Leaves r.document steps n →
                    (rows u)[n + Fix.shiftBy r.document steps]? = (rows (unifyNewlines t))[n]? := by
  have hload := load_of_read h root
  obtain ⟨saved, hsave, hsaved⟩ := save_of_read (d := ⟨_, some path, root, fs.here⟩) h rfl
  refine ⟨_, saved, hload, rfl, hsave, hsaved, ?_, ?_, ?_⟩
  · rw [hsaved.read, h, Except.ok.injEq, encode_inj, unifyNewlines_eq_self_iff]
  · intro hreturn
    rw [unifyNewlines_of_not_mem hreturn] at hsaved
    exact hsaved.standsAt?_eq h
  · rintro call parsed file r rfl rfl ps hrun
    have htext : r.document.text = unifyNewlines t := by
      have hloads := r.loads
      rw [load_of_read h] at hloads
      rw [← Except.ok.inj hloads]
    rw [← htext]
    exact r.exists_kept hrun

namespace Document

open CommandLine

/-- A tree with a header of two lines, of which the first ends with two characters and the last with
none. -/
def returnTree : Files :=
  openTree.put ["a.h".toList] (.file (encode "int x;\r\nint y;".toList) false)

/-- Loading that header and saving it loses the carriage return. -/
theorem save_returnTree :
    returnTree.read "a.h".toList = .ok (encode "int x;\r\nint y;".toList)
      ∧ ∃ d saved, load returnTree (.ofText "a.h".toList) none = .ok d
        ∧ d.save returnTree = .ok saved
        ∧ saved.read "a.h".toList = .ok (encode "int x;\nint y;".toList) := by
  have hread : returnTree.read "a.h".toList = .ok (encode "int x;\r\nint y;".toList) := by
    decide +kernel
  refine ⟨hread, ⟨"int x;\nint y;".toList, some (.ofText "a.h".toList), none, []⟩,
    returnTree.put ["a.h".toList] (.file (encode "int x;\nint y;".toList) false), ?_⟩
  decide +kernel

/-- A call for that header, of a checker that misses the line feed at its end. -/
def returnCall : Call :=
  { openCall "a.h:2:  No newline  [whitespace/ending_newline] [5]\n".toList with
    files := returnTree }

/-- It gets as far as running the checker. -/
def returnRun : LintRun returnCall openParsed "a.h".toList where
  store := ⟨Path.ofText "s.json".toList, returnCall.environment, .empty⟩
  document := ⟨"int x;\nint y;".toList, some ⟨.root, ["a.h".toList]⟩, some ⟨.root, []⟩, []⟩
  isFile := by decide +kernel
  opens := rfl
  loads := by decide +kernel

/-- The finding of the checker. -/
def returnFinding : PlacedFinding :=
  ⟨⟨2, "No newline ".toList, Fix.newlineCategory, 5⟩, 1, ⟨7, 13, by decide⟩⟩

/-- The first line of the header is not edited, and loses the carriage return all the same. -/
theorem save_load_returnTree :
    returnTree.read "/a.h".toList = .ok (encode "int x;\r\nint y;".toList)
      ∧ returnRun.outcome.value = .ok [returnFinding]
      ∧ Fix.Leaves returnRun.document [(.trailingNewline, 1)] 0
      ∧ ∃ u, (lint returnCall openParsed "a.h".toList []).files.read "/a.h".toList = .ok (encode u)
        ∧ (rows u)[0]? = some ⟨"int x;".toList, ['\n']⟩ := by
  have hread : returnTree.read "/a.h".toList = .ok (encode "int x;\r\nint y;".toList) := by
    decide +kernel
  have hrun : returnRun.outcome.value = .ok [returnFinding] := by decide +kernel
  have hleaves : Fix.Leaves returnRun.document [(.trailingNewline, 1)] 0 := by decide +kernel
  have hpath : (lintTarget returnCall "a.h".toList).text = "/a.h".toList := by decide +kernel
  have hreads : returnTree.read (lintTarget returnCall "a.h".toList).text
      = .ok (encode "int x;\r\nint y;".toList) := by rw [hpath, hread]
  obtain ⟨d, saved, -, -, -, -, -, -, hlint⟩ := save_load hreads none
  refine ⟨hread, hrun, hleaves, ?_⟩
  rcases hlint returnRun rfl rfl _ hrun with hsame | ⟨steps, u, hpicked, hafter, hframe⟩
  · exact absurd hsame (by decide +kernel)
  · have hsteps : steps = [(.trailingNewline, (returnFinding.line : Int))] :=
      hpicked.eq_singleton (by decide +kernel)
    subst hsteps
    rw [hpath] at hafter
    refine ⟨u, hafter, ?_⟩
    refine (hframe 0 hleaves).trans ?_
    decide +kernel

end Document

end LintMend

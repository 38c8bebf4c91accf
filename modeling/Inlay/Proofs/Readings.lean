import Mathlib
import Inlay.Partition
import Inlay.Proofs.Blocks
import Inlay.Proofs.Introducers

/-!
# How a document is read

`Reads` relates lines to their readings, one rule for each kind of introducer and none for what is
malformed. A document is cut exactly if its lines are read so (`build_eq_ok_iff`), and what holds
of every document is shown by induction on `Reads`.
-/

namespace Inlay

/-- Lines from a lexer state on and how they are read. -/
inductive Reads (indentation : Indentation) (style : LineStyle) :
    LexState → List Line → List Reading → Prop
  | nil {s} : Reads indentation style s [] []
  | host {s line below rs} :
    Introducer.recognize line s (lexLine .host s line.content).tokens = .ok .none →
    Reads indentation style (s.after .host line.content) below rs →
    Reads indentation style s (line :: below) (⟨line, s, none⟩ :: rs)
  | statement {s line column code stop below rs} :
    Introducer.recognize line s (lexLine .host s line.content).tokens =
      .ok (.statement column code stop) →
    Reads indentation style .initial below rs →
    Reads indentation style s (line :: below) (⟨line, s, some (.ofStatement line code stop)⟩ :: rs)
  | block {s line header colon body blanks left region rs} :
    Introducer.recognize line s (lexLine .host s line.content).tokens =
      .ok (.block header colon) →
    Region.Extent indentation.tabWidth (Indent.width indentation.tabWidth line.indent)
      body blanks left →
    Region.Taken indentation style line header.variant header body region →
    Reads indentation style .initial (blanks ++ left) rs →
    Reads indentation style s (line :: (body ++ blanks ++ left)) (⟨line, s, some region⟩ :: rs)

section

variable {indentation : Indentation} {style : LineStyle} {s : LexState} {lines : List Line}
  {rs : List Reading} {r : Region}

theorem Reads.block_of_mem (h : Reads indentation style s lines rs)
    (hm : r ∈ rs.filterMap Reading.region) (hr : r.isStatement = false) :
    ∃ above line header body blanks left, lines = above ++ line :: (body ++ (blanks ++ left)) ∧
      Region.Extent indentation.tabWidth (Indent.width indentation.tabWidth line.indent)
        body blanks left ∧
      Region.Taken indentation style line header.variant header body r := by
  induction h with
  | nil => simp at hm
  | @host s first below rs _ _ ih =>
    obtain ⟨above, line, header, body, blanks, left, rfl, he, ht⟩ := ih hm
    exact ⟨first :: above, line, header, body, blanks, left, rfl, he, ht⟩
  | @statement s first _ _ _ below rs _ _ ih =>
    rcases List.mem_cons.mp hm with rfl | hm
    · cases hr
    · obtain ⟨above, line, header, body, blanks, left, rfl, he, ht⟩ := ih hm
      exact ⟨first :: above, line, header, body, blanks, left, rfl, he, ht⟩
  | @block s first header _ body blanks left region rs _ he ht _ ih =>
    rcases List.mem_cons.mp hm with rfl | hm
    · exact ⟨[], first, header, body, blanks, left, by simp, he, ht⟩
    · obtain ⟨above, line, header, body', blanks', left', heq, he, ht⟩ := ih hm
      exact ⟨first :: (body ++ above), line, header, body', blanks', left', by simp [heq], he, ht⟩

theorem Reads.statement_of_mem (h : Reads indentation style s lines rs)
    (hm : r ∈ rs.filterMap Reading.region) (hr : r.isStatement) :
    ∃ line s column code stop,
      Introducer.recognize line s (lexLine .host s line.content).tokens =
        .ok (.statement column code stop) ∧ r = Region.ofStatement line code stop := by
  induction h with
  | nil => simp at hm
  | host _ _ ih => exact ih hm
  | statement hrecognize _ ih =>
    rcases List.mem_cons.mp hm with rfl | hm
    · exact ⟨_, _, _, _, _, hrecognize, rfl⟩
    · exact ih hm
  | block _ _ ht _ ih =>
    rcases List.mem_cons.mp hm with rfl | hm
    · rw [ht.isStatement] at hr
      cases hr
    · exact ih hm

end

namespace Partition

variable {indentation : Indentation} {style : LineStyle} {s : LexState} {lines : List Line}
  {rs : List Reading}

theorem reads_of_readFrom (h : readFrom indentation style s lines = .ok rs) :
    Reads indentation style s lines rs := by
  fun_induction readFrom indentation style s lines generalizing rs with
  | case1 => cases h; exact .nil
  | case2 =>
    rename_i line below lexed hfinish hinitial hbehind
    obtain ⟨i, hi, h⟩ := bind_eq_ok_iff.mp h
    cases i with
    | none =>
      obtain ⟨readings, hr, h⟩ := bind_eq_ok_iff.mp h
      cases h
      exact .host hi (hfinish hr)
    | statement column code stop =>
      obtain ⟨readings, hr, h⟩ := bind_eq_ok_iff.mp h
      cases h
      exact .statement hi (hinitial hr)
    | block header colon =>
      obtain ⟨region, hregion, h⟩ := bind_eq_ok_iff.mp h
      obtain ⟨readings, hr, h⟩ := bind_eq_ok_iff.mp h
      cases h
      obtain ⟨body, blanks, left, rfl, he, ht⟩ := Region.ofBlock_eq_ok_iff.mp hregion
      have hr := hbehind region hr
      rw [ht.length_lines, List.append_assoc, List.drop_left] at hr
      exact .block hi he ht hr

theorem readFrom_of_reads (h : Reads indentation style s lines rs) :
    readFrom indentation style s lines = .ok rs := by
  induction h with
  | nil => rw [readFrom]
  | host hr _ ih =>
    rw [readFrom, hr]
    exact bind_eq_ok_iff.mpr ⟨_, rfl, bind_eq_ok_iff.mpr ⟨_, ih, rfl⟩⟩
  | statement hr _ ih =>
    rw [readFrom, hr]
    exact bind_eq_ok_iff.mpr ⟨_, rfl, bind_eq_ok_iff.mpr ⟨_, ih, rfl⟩⟩
  | block hr he ht _ ih =>
    rw [readFrom, hr]
    refine bind_eq_ok_iff.mpr ⟨_, rfl, bind_eq_ok_iff.mpr ⟨_,
      Region.ofBlock_eq_ok_iff.mpr ⟨_, _, _, rfl, he, ht⟩, bind_eq_ok_iff.mpr ⟨_, ?_, rfl⟩⟩⟩
    rwa [ht.length_lines, List.append_assoc, List.drop_left]

theorem readFrom_eq_ok_iff :
    readFrom indentation style s lines = .ok rs ↔ Reads indentation style s lines rs :=
  ⟨reads_of_readFrom, readFrom_of_reads⟩

theorem build_eq_ok_iff {document : Document} {p : Partition} :
    build indentation document = .ok p ↔
      ∃ rs, Reads indentation document.style .initial document.lines rs ∧
        p = ⟨document, rs.filterMap Reading.region,
          segmentsFrom document.text.length 0 0 (rs.filterMap Reading.region)⟩ := by
  simp only [build, readings, bind_eq_ok_iff, pure_eq_ok_iff, readFrom_eq_ok_iff]
  exact exists_congr fun _ => and_congr_right fun _ => eq_comm

variable {document : Document} {p : Partition} {r : Region}

theorem statement_of_mem (h : build indentation document = .ok p) (hr : r ∈ p.regions)
    (hs : r.isStatement) :
    ∃ line s column code stop,
      Introducer.recognize line s (lexLine .host s line.content).tokens =
        .ok (.statement column code stop) ∧ r = Region.ofStatement line code stop := by
  obtain ⟨rs, hreads, rfl⟩ := build_eq_ok_iff.mp h
  exact hreads.statement_of_mem hr hs

theorem block_of_mem (h : build indentation document = .ok p) (hr : r ∈ p.regions)
    (hb : r.isStatement = false) :
    ∃ above line header body blanks left,
      document.lines = above ++ line :: (body ++ (blanks ++ left)) ∧
      Region.Extent indentation.tabWidth (Indent.width indentation.tabWidth line.indent)
        body blanks left ∧
      Region.Taken indentation document.style line header.variant header body r := by
  obtain ⟨rs, hreads, rfl⟩ := build_eq_ok_iff.mp h
  exact hreads.block_of_mem hr hb

end Partition

end Inlay

import Excerpt.Proofs.BeyondEnd
import Excerpt.Proofs.FaultAgreement

/-! A handle in front of a line. Reading hands out the lines of a file one after the other, none lost
and none twice, and an empty line only at the end. The walk to a location is as many single reads as
there are lines above it. -/
namespace Excerpt

/-- The feed after `n` single reads. -/
def Feed.after (n : ℕ) (f : Feed) : Feed := (fun g => g.next.2)^[n] f

/-- The file can be opened, and its bytes are those of `t` in the character set that `encoding` asks
for. -/
def DecodesBy (tree : FileTree) (file : String) (encoding : Json) (t : Text) : Prop :=
  Settings.hasNul file = false ∧ ∃ bytes cs, tree.readFile file = .ok bytes ∧
    charsetOf encoding = .ok cs ∧ cs.decode bytes = .ok t

/-! ### Single reads -/

theorem next_lines (ls : List Text) :
    (Feed.mk ls .done).next = (.ok (ls.headD []), ⟨ls.drop 1, .done⟩) := by
  cases ls with
  | nil => rfl
  | cons l ls => rfl

/-- Each read takes one line, and behind the last line there is nothing to take. -/
theorem after_lines (ls : List Text) (n : ℕ) :
    (Feed.mk ls .done).after n = ⟨ls.drop n, .done⟩ := by
  induction n generalizing ls with
  | zero => rfl
  | succ n ih =>
    calc (Feed.mk ls .done).after (n + 1)
      _ = ((Feed.mk ls .done).next.2).after n := Function.iterate_succ_apply _ n _
      _ = (Feed.mk (ls.drop 1) .done).after n := by rw [next_lines]
      _ = ⟨(ls.drop 1).drop n, .done⟩ := ih (ls.drop 1)
      _ = ⟨ls.drop (n + 1), .done⟩ := by rw [List.drop_drop, Nat.add_comm]

theorem next_after (ls : List Text) (n : ℕ) :
    ((Feed.mk ls .done).after n).next.1 = .ok (ls.getD n []) := by
  rw [after_lines, next_lines, List.headD_eq_head?_getD, List.head?_drop, List.getD_eq_getElem?_getD]

/-! ### Opening -/

theorem decodes_iff {tree : FileTree} {file : String} {t : Text} :
    Decodes tree file t ↔
      ∃ s, settingsIn tree = .ok s ∧ DecodesBy tree file s.encoding t := by
  constructor
  · intro h
    obtain ⟨s, bytes, cs, hs, hnul, hread, hcharset, hdecode⟩ := h
    exact ⟨s, hs, hnul, bytes, cs, hread, hcharset, hdecode⟩
  · intro h
    obtain ⟨s, hs, hnul, bytes, cs, hread, hcharset, hdecode⟩ := h
    exact ⟨s, bytes, cs, hs, hnul, hread, hcharset, hdecode⟩

/-- A fresh handle has all the lines of its file in front of it. -/
theorem openText_decodes {d : Desk} {file : String} {encoding : Json} {t : Text}
    (h : DecodesBy d.tree file encoding t) :
    ∃ h d', Source.openText file encoding d = (.ok h, d') ∧ h.feed = ⟨lines t, .done⟩ := by
  obtain ⟨hnul, bytes, cs, hread, hcharset, hdecode⟩ := h
  rw [openText_eq, encodingMisfit_of_charset hcharset]
  simp only [hnul, hread, hcharset, feed_of_decodable hdecode, Bool.false_eq_true, if_false]
  exact ⟨_, _, rfl, rfl⟩

/-! ### Going to a line -/

section
variable {ls : List Text} {loc : Location} {h : Handle} (hfeed : h.feed = ⟨ls, .done⟩)
include hfeed

theorem linesAbove_take (n read : ℕ) :
    (linesAbove n read h.feed).1 = ls.take (min n ls.length) := by
  rw [hfeed]
  rcases Nat.lt_or_ge ls.length n with hn | hn
  · rw [linesAbove_beyond hn, Nat.min_eq_right hn.le, List.take_length]
  · rw [linesAbove_reached hn, Nat.min_eq_left hn]

/-- A file with fewer lines than there are above the location is read to its end. -/
theorem approach_short (hn : ls.length < loc.line - 1) (d : Desk) :
    (Source.approach h loc d).1 = .error (.endOfInput loc.file loc.line ls.length) := by
  rw [Source.approach, hfeed, linesAbove_beyond hn, Nat.zero_add]
  rfl

/-- Otherwise the walk reads the lines above the location and no more. -/
theorem approach_reached (hn : loc.line - 1 ≤ ls.length) (d : Desk) :
    (Source.approach h loc d).1 =
      .ok (ls.take (loc.line - 1), { h with feed := h.feed.after (loc.line - 1) }) := by
  rw [Source.approach, hfeed, linesAbove_reached hn, after_lines]
  rfl

end

/-- Of a file that decodes, a fresh handle hands out the lines one by one, and then nothing more. The
walk to a location yields the lines above it. It fails just when there are fewer of them, by the fault
of the end of the file, when all lines have been yielded and counted; otherwise it leaves the handle
as that many single reads do, so that the next read gives the line of the location. What was yielded
and what is left at the location together are the text. -/
theorem positioned_exactly {d : Desk} {loc : Location} {encoding : Json} {t : Text} {ls : List Text}
    (ht : DecodesBy d.tree loc.file encoding t) (hcut : Cut ls) (hls : ls.flatten = t) :
    (∀ l ∈ ls, l ≠ []) ∧
    (∃ h d', Source.openText loc.file encoding d = (.ok h, d') ∧
      (∀ i, (h.feed.after i).next.1 = .ok (ls.getD i [])) ∧
      (linesAbove (loc.line - 1) 0 h.feed).1 = ls.take (min (loc.line - 1) ls.length) ∧
      (ls.length < loc.line - 1 →
        (Source.approach h loc d').1 = .error (.endOfInput loc.file loc.line ls.length)) ∧
      (loc.line - 1 ≤ ls.length →
        (Source.approach h loc d').1 =
          .ok (ls.take (loc.line - 1), { h with feed := h.feed.after (loc.line - 1) }))) ∧
    ∀ s, settingsIn d.tree = .ok s → s.encoding = encoding →
      (ls.length < loc.line - 1 →
        (Source.openAt loc d).1 = .error (.endOfInput loc.file loc.line ls.length)) ∧
      (loc.line - 1 ≤ ls.length →
        ∃ h rest, (Source.openAt loc d).1 = .ok h ∧
          h.feed.next.1 = .ok (ls.getD (loc.line - 1) []) ∧ h.feed.rest = .ok rest ∧
          (ls.take (loc.line - 1)).flatten ++ rest = t) := by
  have hlines : lines t = ls := by rw [← hls, lines_cut hcut]
  refine ⟨(cut_chain hcut).2, ?_, ?_⟩
  · obtain ⟨h, d', hopen, hfeed⟩ := openText_decodes ht
    rw [hlines] at hfeed
    refine ⟨h, d', hopen, ?_, linesAbove_take hfeed _ _, ?_, ?_⟩
    · intro i
      rw [hfeed, next_after]
    · exact fun hn => approach_short hfeed hn d'
    · exact fun hn => approach_reached hfeed hn d'
  · intro s hs hencoding
    have hdecodes : Decodes d.tree loc.file t := by
      apply decodes_iff.mpr
      exact ⟨s, hs, hencoding ▸ ht⟩
    have hopen := (reads_openAt loc d).1
    rw [← hlines]
    constructor
    · intro hn
      rw [placed_beyond hdecodes (by omega)] at hopen
      exact except_map_error.mp hopen
    · intro hn
      rw [placed_decodes hdecodes (by omega)] at hopen
      rcases hrun : (Source.openAt loc d).1 with e | h
      · rw [hrun] at hopen
        cases hopen
      · rw [hrun] at hopen
        have hfeed : h.feed = ⟨linesFrom t loc.line, .done⟩ := Except.ok.inj hopen
        refine ⟨h, (linesFrom t loc.line).flatten, rfl, ?_, ?_, ?_⟩
        · rw [hfeed, linesFrom, ← after_lines, next_after]
        · rw [hfeed]
          rfl
        · calc ((lines t).take (loc.line - 1)).flatten ++ (linesFrom t loc.line).flatten
            _ = ((lines t).take (loc.line - 1) ++ (lines t).drop (loc.line - 1)).flatten :=
              List.flatten_append.symm
            _ = (lines t).flatten := by rw [List.take_append_drop]
            _ = t := lines_flatten t

/-- A pair, a blank line, a lone return and a line that the end of the file leaves open. The third
line is reached, with the two above it yielded; above a seventh there are not enough. -/
theorem third_line_positioned :
    let t := ['a', '\r', '\n', '\n', '\r', 'b']
    let ls := [['a', '\r', '\n'], ['\n'], ['\r'], ['b']]
    let third : Location := ⟨"a", 3, by decide⟩
    let seventh : Location := ⟨"a", 7, by decide⟩
    let d := Desk.ofTree (oneFile t)
    DecodesBy d.tree "a" .null t ∧ Cut ls ∧ ls.flatten = t ∧
      (∃ h d' h', Source.openText "a" .null d = (.ok h, d') ∧
        (Source.approach h third d').1 = .ok ([['a', '\r', '\n'], ['\n']], h') ∧
        h'.feed.next.1 = .ok ['\r']) ∧
      (∃ h, (Source.openAt third d).1 = .ok h ∧ h.feed.rest = .ok ['\r', 'b']) ∧
      (Source.openAt seventh d).1 = .error (.endOfInput "a" 7 4) := by
  intro t ls third seventh d
  have hdecodes : DecodesBy d.tree "a" .null t :=
    ⟨by decide, utf8Bytes t, .utf8, readFile_oneFile t, rfl, decode_utf8Bytes t⟩
  have hcut : Cut ls := cut_lines t
  have hsettings : settingsIn d.tree = .ok {} := settingsIn_oneFile t
  obtain ⟨-, ⟨h, d', hopen, hreads, -, -, hreached⟩, hplaced⟩ :=
    @positioned_exactly d third .null t ls hdecodes hcut rfl
  refine ⟨hdecodes, hcut, rfl, ⟨h, d', _, hopen, hreached (by decide), hreads 2⟩, ?_, ?_⟩
  · obtain ⟨h₂, rest, hopen₂, -, hrest, htext⟩ := (hplaced {} hsettings rfl).2 (by decide)
    have htail : rest = ['\r', 'b'] := by simpa [ls, third, t] using htext
    exact ⟨h₂, hopen₂, htail ▸ hrest⟩
  · obtain ⟨-, -, hbeyond⟩ := @positioned_exactly d seventh .null t ls hdecodes hcut rfl
    exact (hbeyond {} hsettings rfl).1 (by decide)

end Excerpt

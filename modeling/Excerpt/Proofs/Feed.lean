import Excerpt.Proofs.Decoding
import Excerpt.Proofs.Lines

/-! The lines that a file hands out are those of its decoded text, wherever the chunks cut its
characters and its line ends. Of a file that cannot be decoded to its end, they are the lines closed
before the chunk that stops it. -/
namespace Excerpt

/-- The text in front of the first piece that has none. -/
def textBefore : List Piece → Text
  | [] => []
  | .ok t :: rest => t ++ textBefore rest
  | .error _ :: _ => []

/-- No piece ends inside a pair of carriage return and line feed. -/
def Untorn : List Piece → Prop
  | [] => True
  | .ok t :: rest => ¬ Torn t (textBefore rest) ∧ Untorn rest
  | .error _ :: _ => True

theorem joinPieces_textBefore {ps : List Piece} {t : Text} (h : joinPieces ps = .ok t) :
    textBefore ps = t := by
  induction ps generalizing t with
  | nil => simpa [joinPieces, textBefore] using h
  | cons p ps ih =>
    rcases p with e | u
    · simp [joinPieces] at h
    · rcases hj : joinPieces ps with e | v
      · simp [joinPieces, hj, Except.map] at h
      · have ht : u ++ v = t := by simpa [joinPieces, hj, Except.map] using h
        rw [textBefore, ih hj, ht]

theorem not_torn_open {o t v : Text} (ho : NoBreak o) (h : ¬ Torn t v) : ¬ Torn (o ++ t) v := by
  by_cases ht : t = []
  · subst ht
    rw [List.append_nil]
    rintro ⟨hl, _⟩
    exact (ho '\r' (List.mem_of_getLast? hl)).2 rfl
  · rwa [torn_append ht]

/-- Reading piece by piece cuts the whole text, as far as there is text. -/
theorem ofPieces_lines {ps : List Piece} {opened : Text} (hu : Untorn ps) (ho : NoBreak opened) :
    (∃ t, joinPieces ps = .ok t ∧ Feed.ofPieces opened ps = ⟨lines (opened ++ t), .done⟩) ∨
    (∃ e rest, joinPieces ps = .error e ∧
      Feed.ofPieces opened ps = ⟨(closedLines (opened ++ textBefore ps)).1, .stuck e rest⟩) := by
  induction ps generalizing opened with
  | nil =>
    refine Or.inl ⟨[], rfl, ?_⟩
    rw [List.append_nil, Feed.ofPieces]
  | cons p ps ih =>
    rcases p with e | t
    · have hc : (closedLines (opened ++ textBefore (.error e :: ps))).1 = [] := by
        rw [textBefore, List.append_nil, closedLines_noBreak ho]
      rw [hc]
      cases ps with
      | nil => exact Or.inr ⟨e, _, rfl, rfl⟩
      | cons q qs => exact Or.inr ⟨e, _, rfl, rfl⟩
    · -- The open line has no break, so putting it in front of the piece tears nothing.
      obtain ⟨hcut, hrest⟩ := hu
      have hcut' := not_torn_open ho hcut
      have hstep : Feed.ofPieces opened (.ok t :: ps) =
          (Feed.ofPieces (closedLines (opened ++ t)).2 ps).prepend (closedLines (opened ++ t)).1 := by
        rw [Feed.ofPieces]
      rcases ih hrest (closedLines_open_noBreak (opened ++ t)) with ⟨v, hj, hf⟩ | ⟨e, r, hj, hf⟩
      · rw [joinPieces_textBefore hj] at hcut'
        refine Or.inl ⟨t ++ v, by rw [joinPieces, hj]; rfl, ?_⟩
        rw [hstep, hf, Feed.prepend, ← List.append_assoc, lines_append hcut']
      · refine Or.inr ⟨e, r, by rw [joinPieces, hj]; rfl, ?_⟩
        rw [hstep, hf, Feed.prepend, textBefore, ← List.append_assoc, closedLines_append hcut']

/-! ### The pieces of a file -/

theorem holdReturn_cases (u : Text) :
    (holdReturn u = (u, false) ∧ u.getLast? ≠ some '\r') ∨
    (∃ v, u = v ++ ['\r'] ∧ holdReturn u = (v, true)) := by
  by_cases h : u.getLast? = some '\r'
  · obtain ⟨v, rfl⟩ := List.getLast?_eq_some_iff.mp h
    refine Or.inr ⟨v, rfl, ?_⟩
    simp [holdReturn]
  · refine Or.inl ⟨?_, h⟩
    simp [holdReturn, h]

theorem decoder_feed_ok {d : Decoder} {before : ℕ} {fin : Bool} {input kept : Bytes} {t : Text}
    {mark : Mark} (h : d.run fin input = (.ok (t, kept), mark)) :
    d.feed before fin input = (.ok t, { d with kept, mark }) := by
  simp [Decoder.feed, h]

theorem decoder_feed_ok_inv {d : Decoder} {before : ℕ} {fin : Bool} {input : Bytes} {t : Text}
    (h : (d.feed before fin input).1 = .ok t) :
    ∃ kept mark, d.run fin input = (.ok (t, kept), mark) := by
  rcases hr : d.run fin input with ⟨s | ⟨t', kept⟩, mark⟩
  · simp [Decoder.feed, hr] at h
  · have ht : t' = t := by simpa [Decoder.feed, hr] using h
    exact ⟨kept, mark, by rw [ht]⟩

theorem chunks_flatten {n : ℕ} {b : Bytes} (h : b.length ≤ n * chunkSize) :
    (chunks n b).flatten = b := by
  induction n generalizing b with
  | zero =>
    have hb : b = [] := List.length_eq_zero_iff.mp (by omega)
    simp [chunks, hb]
  | succ n ih =>
    have hd : (b.drop chunkSize).length ≤ n * chunkSize := by
      rw [List.length_drop]
      rw [Nat.succ_mul] at h
      omega
    rw [chunks]
    split_ifs with he
    · simpa using he
    · rw [List.flatten_cons, ih hd, List.take_append_drop]

/-- A carriage return that is held comes first in what follows. -/
theorem decodeChunks_held (bs : List Bytes) (d : Decoder) (before : ℕ) :
    (textBefore (decodeChunks d before true bs)).head? ≠ some '\n' := by
  induction bs generalizing d before with
  | nil =>
    rcases hf : (d.feed before true []).1 with e | t <;>
      simp [decodeChunks, hf, Except.map, textBefore, giveBack]
  | cons b bs ih =>
    rcases hf : d.feed before false b with ⟨e | t, d'⟩
    · simp [decodeChunks, hf, textBefore]
    · rcases holdReturn_cases ('\r' :: t) with ⟨hh, _⟩ | ⟨v, hv, hh⟩
      · simp [decodeChunks, hf, giveBack, hh, textBefore]
      · -- If the return is all there is, it is held again and the next chunk decides.
        simp only [decodeChunks, hf, giveBack, hh, textBefore, if_true]
        cases v with
        | nil => exact ih d' _
        | cons c v =>
          injection hv with hc _
          simp [← hc]

/-- The pieces of a file tear no pair, however its bytes are cut. -/
theorem decodeChunks_untorn (bs : List Bytes) (d : Decoder) (before : ℕ) (held : Bool) :
    Untorn (decodeChunks d before held bs) := by
  induction bs generalizing d before held with
  | nil =>
    rcases hf : (d.feed before true []).1 with e | t <;>
      simp [decodeChunks, hf, Except.map, textBefore, Untorn, Torn]
  | cons b bs ih =>
    rcases hf : d.feed before false b with ⟨e | t, d'⟩
    · simp [decodeChunks, hf, Untorn]
    · rcases holdReturn_cases (giveBack held t) with ⟨hh, hl⟩ | ⟨v, _, hh⟩
      · simp only [decodeChunks, hf, hh, Untorn]
        exact ⟨fun ht => hl ht.1, ih _ _ _⟩
      · -- `v` may end in another return, but what follows starts with the one held.
        simp only [decodeChunks, hf, hh, Untorn]
        exact ⟨fun ht => decodeChunks_held bs d' _ ht.2, ih _ _ _⟩

/-- If the bytes decode at once, they decode in pieces, and to the same text. -/
theorem decodeChunks_join {bs : List Bytes} {d : Decoder} {t : Text} {k : Bytes}
    (before : ℕ) (held : Bool) (h : (d.run true bs.flatten).1 = .ok (t, k)) :
    joinPieces (decodeChunks d before held bs) = .ok (giveBack held t) := by
  induction bs generalizing d before held t with
  | nil =>
    rcases hr : d.run true [] with ⟨r, mark⟩
    have hr' : r = .ok (t, k) := by simpa [hr] using h
    subst hr'
    simp [decodeChunks, decoder_feed_ok hr, joinPieces, Except.map]
  | cons b bs ih =>
    obtain ⟨t₁, kept, mark, t₂, h1, rfl, h2⟩ := run_append h
    have hback : giveBack held (t₁ ++ t₂) = giveBack held t₁ ++ t₂ := by
      cases held <;> simp [giveBack]
    rcases holdReturn_cases (giveBack held t₁) with ⟨hh, _⟩ | ⟨v, hv, hh⟩
    · simp only [decodeChunks, decoder_feed_ok h1, hh, joinPieces]
      rw [ih (before + b.length) false h2, hback]
      rfl
    · simp only [decodeChunks, decoder_feed_ok h1, hh, joinPieces]
      rw [ih (before + b.length) true h2, hback, hv]
      simp [Except.map, giveBack]

theorem chunks_file (b : Bytes) : (chunks (b.length / chunkSize + 1) b).flatten = b := by
  apply chunks_flatten
  unfold chunkSize
  omega

/-- The two kinds of feed: of all the text, or of what is closed before a chunk that has none. -/
theorem ofBytes_lines (cs : Charset) (b : Bytes) :
    (∃ t, joinPieces (pieces cs b) = .ok t ∧ Feed.ofBytes cs b = ⟨lines t, .done⟩) ∨
    (∃ e rest, joinPieces (pieces cs b) = .error e ∧
      Feed.ofBytes cs b = ⟨(closedLines (textBefore (pieces cs b))).1, .stuck e rest⟩) := by
  have hnil : NoBreak [] := by simp [NoBreak]
  exact ofPieces_lines (decodeChunks_untorn _ _ _ _) hnil

/-- A file that decodes hands out the lines of its text. -/
theorem feed_of_decodable {cs : Charset} {b : Bytes} {t : Text} (h : cs.decode b = .ok t) :
    Feed.ofBytes cs b = ⟨lines t, .done⟩ := by
  obtain ⟨kept, mark, hr⟩ := decoder_feed_ok_inv h
  have hj : joinPieces (pieces cs b) = .ok t := by
    have hrun : (Decoder.run { charset := cs } true
        (chunks (b.length / chunkSize + 1) b).flatten).1 = .ok (t, kept) := by
      rw [chunks_file, hr]
    exact decodeChunks_join 0 false hrun
  rcases ofBytes_lines cs b with ⟨u, hu, hf⟩ | ⟨e, r, hu, _⟩
  · obtain rfl : u = t := by simpa using hu.symm.trans hj
    exact hf
  · cases hu.symm.trans hj

/-- Whatever a file's bytes are, its reader hands out lines of a text. -/
theorem feed_cut (cs : Charset) (b : Bytes) : Cut (Feed.ofBytes cs b).lines := by
  rcases ofBytes_lines cs b with ⟨u, _, hf⟩ | ⟨e, r, _, hf⟩
  · rw [hf]
    exact cut_lines _
  · rw [hf]
    exact cut_whole (closedLines_whole _)

end Excerpt

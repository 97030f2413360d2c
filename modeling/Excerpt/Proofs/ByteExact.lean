import Excerpt.Proofs.Gathering

/-! A unit of a UTF-8 file is made of the file's own bytes, from one line boundary to another. Bytes
are followed from the chunks, where one may end inside a character or a pair, up to the unit. -/
namespace Excerpt

/-- A carriage return ends the text and the byte of a line feed follows it. -/
def TornBefore (t : Text) (q : Bytes) : Prop := t.getLast? = some '\r' ∧ q.head? = some 0x0A

theorem encodeChar_head {c : Char} (h : (String.utf8EncodeChar c).head? = some 0x0A) :
    c = '\n' := by
  have hval : c.val.toNat = 0x0A := by
    simp only [String.utf8EncodeChar] at h
    split_ifs at h with h1 h2 h3
    all_goals
      injection h with h
      have hb := congrArg UInt8.toNat h
      rw [UInt8.toNat_ofNat'] at hb
      have hten : UInt8.toNat 0x0A = 10 := rfl
      omega
  apply Char.ext
  exact UInt32.toNat_inj.mp hval

/-- Seen from the bytes that follow, a pair is torn only if it is torn in the text. -/
theorem tornBefore_text {u v : Text} {q : Bytes} (hv : v ≠ [])
    (h : TornBefore u (utf8Bytes v ++ q)) : Torn u v := by
  obtain ⟨hr, hn⟩ := h
  obtain ⟨c, v, rfl⟩ := List.exists_cons_of_ne_nil hv
  refine ⟨hr, ?_⟩
  rw [utf8Bytes_cons, List.append_assoc,
    List.head?_append_of_ne_nil _ String.utf8EncodeChar_ne_nil] at hn
  rw [encodeChar_head hn]
  rfl

/-- The bytes that a decoder has taken and not given out: a carriage return that is held, and the
start of a character. -/
def pending (d : Decoder) (held : Bool) : Bytes := (if held then [0x0D] else []) ++ d.kept

theorem utf8Bytes_giveBack (held : Bool) (t : Text) :
    utf8Bytes (giveBack held t) = (if held then [0x0D] else []) ++ utf8Bytes t := by
  cases held
  · rfl
  · rw [giveBack, if_pos rfl, utf8Bytes_cons]
    rfl

/-- One chunk: the bytes taken are those of the text given out and those still pending. -/
theorem feed_bytes_exact {d d' : Decoder} {before : ℕ} {fin : Bool} {input : Bytes} {t : Text}
    (hd : d.charset = .utf8) (h : d.feed before fin input = (.ok t, d')) :
    d'.charset = .utf8 ∧ d.kept ++ input = utf8Bytes t ++ d'.kept ∧ (fin = true → d'.kept = []) := by
  obtain ⟨kept, mark, hrun⟩ := decoder_feed_ok_inv (congrArg Prod.fst h)
  rw [decoder_feed_ok hrun] at h
  obtain rfl : { d with kept, mark } = d' := congrArg Prod.snd h
  have hdecode : decodeUtf8 fin (d.kept ++ input) = .ok (t, kept) := by
    simp only [Decoder.run, hd] at hrun
    exact congrArg Prod.fst hrun
  exact ⟨hd, decodeUtf8_exact hdecode⟩

/-- How the bytes that are still to come, and those pending, show in the pieces: all of them, or up to
a place in front of the first piece that has no text. -/
inductive BytesOf (b : Bytes) (ps : List Piece) : Prop
  | all (t : Text) (join : joinPieces ps = .ok t) (bytes : b = utf8Bytes t)
  | upTo (e : DecodeFault) (rest : Bytes) (join : joinPieces ps = .error e)
      (bytes : b = utf8Bytes (textBefore ps) ++ rest) (untorn : ¬ TornBefore (textBefore ps) rest)

/-- Text in front of the pieces, if it does not end in a carriage return whose line feed they may
start with. -/
theorem bytesOf_cons {b : Bytes} {ps : List Piece} {t : Text} (h : BytesOf b ps)
    (hcut : textBefore ps = [] → ¬ TornBefore t b) : BytesOf (utf8Bytes t ++ b) (.ok t :: ps) := by
  cases h with
  | all u join bytes =>
    refine BytesOf.all (t ++ u) ?_ ?_
    · rw [joinPieces, join]
      rfl
    · rw [bytes, utf8Bytes_append]
  | upTo e rest join bytes untorn =>
    refine BytesOf.upTo e rest ?_ ?_ ?_
    · rw [joinPieces, join]
      rfl
    · rw [textBefore, bytes, utf8Bytes_append, List.append_assoc]
    · rw [textBefore]
      by_cases he : textBefore ps = []
      · have hb : b = rest := by simpa [he] using bytes
        rw [he, List.append_nil, ← hb]
        exact hcut he
      · rintro ⟨hr, hn⟩
        rw [List.getLast?_append_of_ne_nil _ he] at hr
        exact untorn ⟨hr, hn⟩

/-- Chunk after chunk, no byte of a UTF-8 file is lost or changed. -/
theorem decodeChunks_bytes (bs : List Bytes) (d : Decoder) (before : ℕ) (held : Bool)
    (hd : d.charset = .utf8) :
    BytesOf (pending d held ++ bs.flatten) (decodeChunks d before held bs) := by
  induction bs generalizing d before held with
  | nil =>
    rcases hf : d.feed before true [] with ⟨e | t, d'⟩
    · refine BytesOf.upTo e (pending d held) ?_ ?_ ?_
      · simp [decodeChunks, hf, joinPieces, Except.map]
      · simp [decodeChunks, hf, textBefore, Except.map]
      · simp [decodeChunks, hf, textBefore, Except.map, TornBefore]
    · obtain ⟨_, hbytes, hkept⟩ := feed_bytes_exact hd hf
      rw [hkept rfl, List.append_nil, List.append_nil] at hbytes
      refine BytesOf.all (giveBack held t) ?_ ?_
      · simp [decodeChunks, hf, joinPieces, Except.map]
      · rw [utf8Bytes_giveBack, ← hbytes, pending, List.flatten_nil, List.append_nil]
  | cons b bs ih =>
    rcases hf : d.feed before false b with ⟨e | t, d'⟩
    · refine BytesOf.upTo e (pending d held ++ (b :: bs).flatten) ?_ ?_ ?_
      · simp [decodeChunks, hf, joinPieces]
      · simp [decodeChunks, hf, textBefore]
      · simp [decodeChunks, hf, textBefore, TornBefore]
    · obtain ⟨hd', hbytes, _⟩ := feed_bytes_exact hd hf
      have hsum : pending d held ++ (b :: bs).flatten =
          utf8Bytes (giveBack held t) ++ (d'.kept ++ bs.flatten) := by
        rw [pending, utf8Bytes_giveBack, List.flatten_cons]
        simp only [List.append_assoc]
        rw [← List.append_assoc d.kept, hbytes, List.append_assoc]
      rw [hsum]
      rcases holdReturn_cases (giveBack held t) with ⟨hh, hl⟩ | ⟨v, hv, hh⟩
      · simp only [decodeChunks, hf, hh]
        exact bytesOf_cons (ih d' _ false hd') fun _ hr => hl hr.1
      · -- The return goes to the bytes that follow, and so the first of them is no line feed.
        have hheld : utf8Bytes (giveBack held t) ++ (d'.kept ++ bs.flatten) =
            utf8Bytes v ++ (pending d' true ++ bs.flatten) := by
          rw [hv, utf8Bytes_append, List.append_assoc]
          rfl
        rw [hheld]
        simp only [decodeChunks, hf, hh]
        refine bytesOf_cons (ih d' _ true hd') ?_
        rintro _ ⟨_, hn⟩
        simp [pending] at hn

/-- The lines that a UTF-8 file hands out are its first bytes. If bytes are left, the lines are whole
and do not stop inside a pair. -/
theorem feed_bytes (b : Bytes) :
    ∃ rest, b = utf8Bytes (Feed.ofBytes .utf8 b).lines.flatten ++ rest ∧
      (rest = [] ∨ Whole (Feed.ofBytes .utf8 b).lines ∧
        ¬ TornBefore (Feed.ofBytes .utf8 b).lines.flatten rest) := by
  have hbytes : BytesOf b (pieces .utf8 b) := by
    have h := decodeChunks_bytes (chunks (b.length / chunkSize + 1) b) { charset := .utf8 } 0 false rfl
    rwa [chunks_file] at h
  rcases ofBytes_lines .utf8 b with ⟨t, hj, hf⟩ | ⟨e, r, hj, hf⟩
  · rw [hf]
    cases hbytes with
    | all u join bytes =>
      obtain rfl : t = u := by simpa using hj.symm.trans join
      exact ⟨[], by rw [lines_flatten, List.append_nil, bytes], Or.inl rfl⟩
    | upTo _ _ join _ _ => cases hj.symm.trans join
  · rw [hf]
    cases hbytes with
    | all _ join _ => cases hj.symm.trans join
    | upTo _ rest _ bytes untorn =>
      -- What stands between the last closed line and the piece without text is an open line.
      generalize textBefore (pieces .utf8 b) = u at bytes untorn
      have hu := closedLines_flatten u
      have hopen := closedLines_open_noBreak u
      refine ⟨utf8Bytes (closedLines u).2 ++ rest, ?_, Or.inr ⟨closedLines_whole u, ?_⟩⟩
      · rw [← List.append_assoc, ← utf8Bytes_append, hu]
        exact bytes
      · by_cases he : (closedLines u).2 = []
        · rw [he, List.append_nil] at hu
          rwa [he, utf8Bytes_nil, List.nil_append, hu]
        · exact fun h => not_torn_noBreak hopen (tornBefore_text he h)

/-- Some lines in the middle of a file's, and the bytes before and behind them. -/
theorem lines_bytes {ls : List Text} {b rest : Bytes} {n k : ℕ} (hcut : Cut ls)
    (hb : b = utf8Bytes ls.flatten ++ rest)
    (hrest : rest = [] ∨ Whole ls ∧ ¬ TornBefore ls.flatten rest) (hk : 0 < k)
    (hle : n + k ≤ ls.length) :
    ∃ p q u, b = p ++ utf8Bytes ((ls.drop n).take k).flatten ++ q ∧
      Charset.utf8.decode p = .ok u ∧ lines u = ls.take n ∧ Whole (ls.take n) ∧
      ¬ Torn u ((ls.drop n).take k).flatten ∧
      (q = [] ∨ Whole ((ls.drop n).take k) ∧ ¬ TornBefore ((ls.drop n).take k).flatten q) := by
  have hsplit : ls.take n ++ ((ls.drop n).take k ++ ls.drop (n + k)) = ls := by
    rw [← List.drop_drop, List.take_append_drop, List.take_append_drop]
  have hwhole : Whole (ls.take n) := cut_take_whole hcut (by omega)
  refine ⟨utf8Bytes (ls.take n).flatten, utf8Bytes (ls.drop (n + k)).flatten ++ rest,
    (ls.take n).flatten, ?_, decode_utf8Bytes _, lines_cut (cut_whole hwhole), hwhole, ?_, ?_⟩
  · conv_lhs => rw [hb, ← hsplit]
    simp only [List.flatten_append, utf8Bytes_append, List.append_assoc]
  · apply cut_split_untorn
    rw [← List.take_add]
    exact cut_take hcut (n + k)
  · rcases hle.lt_or_eq with hlt | heq
    · -- A line follows, so these lines are closed, and a line feed in front of it would be theirs.
      have hunit : Whole ((ls.drop n).take k) := by
        rw [List.take_drop]
        exact whole_drop (cut_take_whole hcut hlt) n
      have hnext : (ls.drop (n + k)).flatten ≠ [] := by
        apply cut_flatten_ne_nil (cut_drop hcut _)
        rw [ne_eq, List.drop_eq_nil_iff]
        omega
      refine Or.inr ⟨hunit, fun h => ?_⟩
      refine cut_split_untorn ?_ (tornBefore_text hnext h)
      rw [← List.drop_drop, List.take_append_drop]
      exact cut_drop hcut n
    · have hend : ls.drop (n + k) = [] := List.drop_eq_nil_of_le heq.ge
      rw [hend, List.flatten_nil, utf8Bytes_nil, List.nil_append]
      rcases hrest with hnil | ⟨hw, huntorn⟩
      · exact Or.inl hnil
      · refine Or.inr ⟨whole_take (whole_drop hw n) k, ?_⟩
        have hne : ((ls.drop n).take k).flatten ≠ [] := by
          apply cut_flatten_ne_nil (cut_take (cut_drop hcut n) k)
          rw [ne_eq, List.take_eq_nil_iff, List.drop_eq_nil_iff]
          omega
        rw [hend, List.append_nil] at hsplit
        rw [← hsplit, List.flatten_append] at huntorn
        rintro ⟨hr, hn⟩
        refine huntorn ⟨?_, hn⟩
        rwa [List.getLast?_append_of_ne_nil _ hne]

theorem charsetOf_utf8 {encoding : Json} (h : encoding = .null ∨ encoding = .str "utf-8") :
    charsetOf encoding = .ok .utf8 := by
  rcases h with rfl | rfl <;> rfl

/-- A unit of a UTF-8 file: in front of it are the bytes of as many whole lines as its line number
says, then come its own bytes, and it ends with the file or with a line, a pair being no place to
end. -/
theorem unit_byte_exact {d : Desk} {loc : Location} {name : Option String} {settings : Settings}
    {b : Bytes} {s : Text} (hset : settingsIn d.tree = .ok settings)
    (henc : settings.encoding = .null ∨ settings.encoding = .str "utf-8")
    (hb : d.tree.readFile loc.file = .ok b) (hs : (sourceAt (some loc) name d).1 = .ok s) :
    ∃ p q u, b = p ++ utf8Bytes s ++ q ∧
      Charset.utf8.decode p = .ok u ∧ (lines u).length = loc.line - 1 ∧
      (∀ l ∈ lines u, Terminated l) ∧ ¬ Torn u s ∧ lines s ≠ [] ∧
      (q = [] ∨ (∀ l ∈ lines s, Terminated l) ∧ ¬ TornBefore s q) := by
  obtain ⟨lang, feed, _, hplaced, hunit⟩ := sourceAt_ok hs
  obtain ⟨settings', b', cs, hset', hb', hcs, hn, rfl⟩ := placed_ok hplaced
  obtain rfl : settings = settings' := by simpa using hset.symm.trans hset'
  obtain rfl : b = b' := by simpa using hb.symm.trans hb'
  obtain rfl : .utf8 = cs := by simpa [charsetOf_utf8 henc] using hcs
  obtain ⟨k, hk, hle, rfl, _, _⟩ := unitFrom_ok hunit
  simp only [List.length_drop] at hle
  have hcut := feed_cut .utf8 b
  obtain ⟨rest, hrest, hend⟩ := feed_bytes b
  obtain ⟨p, q, u, hpsq, hu, hlines, hwhole, huntorn, hq⟩ :=
    lines_bytes (n := loc.line - 1) hcut hrest hend hk (by omega)
  have hlen : (lines u).length = loc.line - 1 := by
    rw [hlines, List.length_take]
    omega
  have hs' := lines_cut (cut_take (cut_drop hcut (loc.line - 1)) k)
  refine ⟨p, q, u, hpsq, hu, hlen, ?_, huntorn, ?_, ?_⟩
  · rw [hlines]
    exact hwhole.terminated
  · rw [hs', ne_eq, List.take_eq_nil_iff, List.drop_eq_nil_iff]
    omega
  · rw [hs']
    exact hq.imp_right fun h => ⟨h.1.terminated, h.2⟩

/-- The second of three lines, behind a character of two bytes and a pair. -/
theorem second_line_byte_exact :
    let t := ['é', '\r', '\n', 'x', '\n', 'y']
    let loc : Location := ⟨"a", 2, by decide⟩
    let d := Desk.ofTree (oneFile t)
    settingsIn d.tree = .ok {} ∧ d.tree.readFile loc.file = .ok (utf8Bytes t) ∧
      (sourceAt (some loc) none d).1 = .ok ['x', '\n'] ∧
      ∃ p q u, utf8Bytes t = p ++ [0x78, 0x0A] ++ q ∧ Charset.utf8.decode p = .ok u ∧
        (lines u).length = 1 := by
  intro t loc d
  obtain ⟨p, q, u, hb, hu, hlen, _⟩ :=
    unit_byte_exact (settingsIn_oneFile t) (Or.inl rfl) (readFile_oneFile t) sourceAt_statement
  exact ⟨settingsIn_oneFile t, readFile_oneFile t, sourceAt_statement, p, q, u, hb, hu, hlen⟩

end Excerpt

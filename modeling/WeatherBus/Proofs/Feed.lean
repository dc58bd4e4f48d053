import Mathlib.Data.List.Rotate
import WeatherBus.Feed
import WeatherBus.Proofs.Text.Blank
import WeatherBus.Proofs.Text.Plain

/-! # A file as a feed

A file is read line by line, and from its first line again when it is at its end. Only its entries
count: what the lines of data and the broken lines give.

* **`Feed.deliver`**, **`Feed.behind`** — what a feed delivers, and where it is after that;
* **`Feed.Gives`** — what the lines of a file give;
* **`Feed.entries_eq_elim`** — reading to the next entry goes through the entries one by one;
* **`Feed.Stands`** — the entries that are left in front of the end, then those that come again;
  `Stands.next` says what one more line does, `exists_behind` that this holds at all times;
* **`Feed.Call`** — how one line is fetched, by reading one line of the file after the other;
* **`Feed.rereads_file`** — a file gives its entries in turn, and each call comes to an end. -/

namespace WeatherBus

/-- What a feed delivers when it is asked a number of times, `none` where it has no line. -/
def Feed.deliver : (count : Nat) → Feed → List (Option Text)
  | 0, _ => []
  | count + 1, feed => feed.next.1 :: deliver count feed.next.2

/-- The feed behind that. -/
def Feed.behind : (count : Nat) → Feed → Feed
  | 0, feed => feed
  | count + 1, feed => behind count feed.next.2

/-- The last of some answers is the one that the feed gives behind the others. -/
theorem Feed.deliver_succ (count : Nat) (feed : Feed) :
    feed.deliver (count + 1) = feed.deliver count ++ [(feed.behind count).next.1] := by
  induction count generalizing feed with
  | zero => rfl
  | succ count ih => rw [deliver, ih, deliver, List.cons_append, behind]

/-- The feed behind some answers has given the last one, too. -/
theorem Feed.behind_succ (count : Nat) (feed : Feed) :
    feed.behind (count + 1) = (feed.behind count).next.2 := by
  induction count generalizing feed with
  | zero => rfl
  | succ count ih => rw [behind, ih, behind]

namespace Feed

variable {content rest bytes line : Bytes} {lines : List Bytes} {answers : List (Option Text)}
  {text : Text} {count : Nat}

/-! ## What lines give -/

/-- What the lines of a file give, in their order: a line of data its text without the blanks at its
ends, a line that is no text a missing line, and a blank line or a comment nothing at all. -/
inductive Gives : List Bytes → List (Option Text) → Prop where
  | nil : Gives [] []
  | data {text : Text} {lines : List Bytes} {answers : List (Option Text)}
    (hne : Text.trim text ≠ []) (hhead : (Text.trim text).head? ≠ some '#')
    (rest : Gives lines answers) :
    Gives (Utf8.encode text :: lines) (some (Text.trim text) :: answers)
  | broken {line : Bytes} {lines : List Bytes} {answers : List (Option Text)}
    (h : ∀ text, line ≠ Utf8.encode text) (rest : Gives lines answers) :
    Gives (line :: lines) (none :: answers)
  | skipped {text : Text} {lines : List Bytes} {answers : List (Option Text)}
    (h : Text.trim text = [] ∨ (Text.trim text).head? = some '#') (rest : Gives lines answers) :
    Gives (Utf8.encode text :: lines) answers

/-- A line with data is an entry without its blanks. -/
theorem entryOf?_of_data (hne : Text.trim text ≠ []) (hhead : (Text.trim text).head? ≠ some '#') :
    entryOf? (Utf8.encode text) = some (.data (Text.trim text)) := by
  have hdata : ¬(((Text.trim text).isEmpty ||
      decide ((Text.trim text).head? = some '#')) = true) := by
    rw [Bool.or_eq_true, List.isEmpty_iff, decide_eq_true_iff, not_or]
    exact ⟨hne, hhead⟩
  simp only [entryOf?, Utf8.decode?_encode, if_neg hdata]

/-- Blank lines and comments are no entries. -/
theorem entryOf?_of_skipped (h : Text.trim text = [] ∨ (Text.trim text).head? = some '#') :
    entryOf? (Utf8.encode text) = none := by
  have hskipped : ((Text.trim text).isEmpty ||
      decide ((Text.trim text).head? = some '#')) = true := by
    rwa [Bool.or_eq_true, List.isEmpty_iff, decide_eq_true_iff]
  simp only [entryOf?, Utf8.decode?_encode, if_pos hskipped]

/-- What is not decoded is not the code of any text. -/
theorem decode?_eq_none_iff : Utf8.decode? line = none ↔ ∀ text, line ≠ Utf8.encode text := by
  rw [Option.eq_none_iff_forall_ne_some]
  exact forall_congr' fun text => not_congr Utf8.decode?_eq_some_iff

/-- A line that is no text is an entry of its own. -/
theorem entryOf?_of_broken (h : ∀ text, line ≠ Utf8.encode text) :
    entryOf? line = some .broken := by
  rw [entryOf?, decode?_eq_none_iff.2 h]

/-- The answer that a line gives, if it gives one. -/
def answer? (line : Bytes) : Option (Option Text) := (entryOf? line).map Entry.line?

/-- A line with data is answered by its data. -/
theorem answer?_of_data (hne : Text.trim text ≠ []) (hhead : (Text.trim text).head? ≠ some '#') :
    answer? (Utf8.encode text) = some (some (Text.trim text)) := by
  rw [answer?, entryOf?_of_data hne hhead]
  rfl

/-- A line that is no text is answered by nothing. -/
theorem answer?_of_broken (h : ∀ text, line ≠ Utf8.encode text) : answer? line = some none := by
  rw [answer?, entryOf?_of_broken h]
  rfl

/-- Blank lines and comments are passed over. -/
theorem answer?_of_skipped (h : Text.trim text = [] ∨ (Text.trim text).head? = some '#') :
    answer? (Utf8.encode text) = none := by
  rw [answer?, entryOf?_of_skipped h]
  rfl

/-- All lines give something. -/
theorem gives_filterMap (lines : List Bytes) : Gives lines (lines.filterMap answer?) := by
  induction lines with
  | nil => exact .nil
  | cons line lines ih =>
    cases hdecode : Utf8.decode? line with
    | none =>
      have hbroken := decode?_eq_none_iff.1 hdecode
      rw [List.filterMap_cons_some (answer?_of_broken hbroken)]
      exact .broken hbroken ih
    | some text =>
      obtain rfl := Utf8.decode?_eq_some_iff.1 hdecode
      by_cases hskipped : Text.trim text = [] ∨ (Text.trim text).head? = some '#'
      · rw [List.filterMap_cons_none (answer?_of_skipped hskipped)]
        exact .skipped hskipped ih
      · obtain ⟨hne, hhead⟩ := not_or.1 hskipped
        rw [List.filterMap_cons_some (answer?_of_data hne hhead)]
        exact .data hne hhead ih

/-- They give one thing only. -/
theorem Gives.eq_filterMap (h : Gives lines answers) : answers = lines.filterMap answer? := by
  induction h with
  | nil => rfl
  | data hne hhead _ ih => rw [List.filterMap_cons_some (answer?_of_data hne hhead), ← ih]
  | broken h _ ih => rw [List.filterMap_cons_some (answer?_of_broken h), ← ih]
  | skipped h _ ih => rw [List.filterMap_cons_none (answer?_of_skipped h), ← ih]

/-! ## The ends of lines -/

/-- A newline at the end is decoded for itself. -/
theorem decode?_append_newline (line : Bytes) :
    Utf8.decode? (line ++ [newline]) = (Utf8.decode? line).map (· ++ ['\n']) := by
  have hend : Utf8.encode ['\n'] = [newline] := by decide
  cases hdecode : Utf8.decode? line with
  | some text =>
    obtain rfl := Utf8.decode?_eq_some_iff.1 hdecode
    rw [← hend, ← Utf8.encode_append, Utf8.decode?_encode, Option.map_some]
  | none =>
    rw [Option.map_none, decode?_eq_none_iff]
    rw [decode?_eq_none_iff] at hdecode
    intro text heq
    rcases List.eq_nil_or_concat text with rfl | ⟨front, c, rfl⟩
    · exact List.append_ne_nil_of_right_ne_nil line (List.cons_ne_nil newline []) heq
    · rw [List.concat_eq_append, Utf8.encode_append] at heq
      have hne : Utf8.encode [c] ≠ [] := Utf8.encode_ne_nil (List.cons_ne_nil c [])
      -- The byte at the end is part of the last character, so it is the whole of it.
      have hlast : newline ∈ (Utf8.encode [c]).getLast? := by
        rw [← List.getLast?_append_of_ne_nil _ hne, ← heq, List.getLast?_concat]
        rfl
      have hmem : newline ∈ String.utf8EncodeChar c := by
        simpa [Utf8.encode] using List.mem_of_mem_getLast? hlast
      obtain rfl : '\n' = c := Char.toNat_inj.1 (Utf8.toNat_eq_of_mem hmem (by decide))
      rw [hend] at heq
      exact hdecode front (List.append_cancel_right heq)

/-- The end of a line does not matter. -/
theorem entryOf?_append_newline (line : Bytes) : entryOf? (line ++ [newline]) = entryOf? line := by
  rw [entryOf?, entryOf?, decode?_append_newline]
  cases Utf8.decode? line with
  | none => rfl
  | some text =>
    have htrim : Text.trim (text ++ ['\n']) = Text.trim text :=
      Text.trim_append_of_isBlank (List.forall_mem_singleton.2 (by decide)) text
    simp only [Option.map_some, htrim]

/-- Bytes without a newline are one line. -/
theorem takeLine_of_notMem (h : newline ∉ line) : takeLine line = (line, []) := by
  induction line with
  | nil => rfl
  | cons b line ih =>
    rw [List.mem_cons, not_or] at h
    rw [takeLine, if_neg (Ne.symm h.1), ih h.2]

/-- The first line ends with its newline. -/
theorem takeLine_append (h : newline ∉ line) (rest : Bytes) :
    takeLine (line ++ newline :: rest) = (line ++ [newline], rest) := by
  induction line with
  | nil => rw [List.nil_append, takeLine, if_pos rfl, List.nil_append]
  | cons b line ih =>
    rw [List.mem_cons, not_or] at h
    rw [List.cons_append, takeLine, if_neg (Ne.symm h.1), ih h.2, List.cons_append]

/-- What is behind a line is behind all that was in front of it. -/
theorem takeLine_suffix (bytes : Bytes) : (takeLine bytes).2 <:+ bytes := by
  by_cases hmem : newline ∈ bytes
  · obtain ⟨line, rest, rfl, hline⟩ := List.eq_append_cons_of_mem hmem
    rw [takeLine_append hline]
    exact (List.suffix_cons newline rest).trans (List.suffix_append line _)
  · rw [takeLine_of_notMem hmem]
    exact List.nil_suffix

/-! ## Entries -/

/-- The entries of some bytes in their order. -/
def entries (bytes : Bytes) : List Entry := (bytes.splitOn newline).filterMap entryOf?

/-- The lines of all entries are the answers of all lines. -/
theorem map_line?_entries (bytes : Bytes) :
    (entries bytes).map Entry.line? = (bytes.splitOn newline).filterMap answer? := by
  rw [entries, List.map_filterMap]
  rfl

/-- Nothing has no entries. -/
@[simp] theorem entries_nil : entries [] = [] := by decide

/-- The first line and what is behind it. -/
theorem entries_eq_append (bytes : Bytes) :
    entries bytes = (entryOf? (takeLine bytes).1).toList ++ entries (takeLine bytes).2 := by
  have hcons : ∀ (line : Bytes) lines,
      (line :: lines).filterMap entryOf? = (entryOf? line).toList ++ lines.filterMap entryOf? := by
    intro line lines
    cases hentry : entryOf? line with
    | none => rw [List.filterMap_cons_none hentry]; rfl
    | some entry => rw [List.filterMap_cons_some hentry]; rfl
  by_cases hmem : newline ∈ bytes
  · obtain ⟨line, rest, rfl, hline⟩ := List.eq_append_cons_of_mem hmem
    rw [takeLine_append hline, entryOf?_append_newline, entries, entries,
      List.splitOn_append_cons_self_of_not_mem hline, hcons]
  · rw [takeLine_of_notMem hmem, entries_nil, entries, List.splitOn_eq_singleton hmem, hcons]
    rfl

/-- Reading to the next entry goes through the entries one by one. -/
theorem entries_eq_elim (bytes : Bytes) :
    entries bytes = (nextEntry bytes).elim [] fun found => found.1 :: entries found.2 := by
  fun_induction nextEntry bytes with
  | case1 => exact entries_nil
  | case2 b rest entry hentry =>
    rw [entries_eq_append, hentry]
    rfl
  | case3 b rest hentry ih =>
    rw [entries_eq_append, hentry, Option.toList_none, List.nil_append]
    exact ih

/-- The next entry is the first one. -/
theorem entries_of_nextEntry {entry : Entry} (h : nextEntry bytes = some (entry, rest)) :
    entries bytes = entry :: entries rest := by
  rw [entries_eq_elim, h]
  rfl

/-- If there is no next entry, there is none at all. -/
theorem entries_of_nextEntry_eq_none (h : nextEntry bytes = none) : entries bytes = [] := by
  rw [entries_eq_elim, h]
  rfl

/-- What is behind the next entry is an end of the bytes. -/
theorem nextEntry_suffix {entry : Entry} (h : nextEntry bytes = some (entry, rest)) :
    rest <:+ bytes := by
  fun_induction nextEntry bytes with
  | case1 => simp at h
  | case2 b bytes found hentry =>
    obtain ⟨-, rfl⟩ := Prod.mk.inj (Option.some.inj h)
    exact takeLine_suffix _
  | case3 b bytes hentry ih => exact (ih h).trans (takeLine_suffix _)

/-- It does not matter whether the last line has an end. -/
theorem entries_append_newline (content : Bytes) :
    entries (content ++ [newline]) = entries content := by
  rw [entries, List.splitOn_append_cons_self, List.filterMap_append]
  exact List.append_nil _

/-! ## Again and again -/

/-- The next line is that of the next entry, or of the first one of the file. -/
theorem next_file (content rest : Bytes) :
    (file content rest).next = ((nextEntry rest).or (nextEntry content)).elim
      (none, file content []) fun found => (found.1.line?, file content found.2) := by
  rw [Feed.next]
  cases (nextEntry rest).or (nextEntry content) <;> rfl

/-- A reader that has gone through a number of entries is in front of some that are left up to the
end of its file. They come next, and then those again that came before. -/
structure Stands (content : Bytes) (count : Nat) (rest : Bytes) : Prop where
  suffix : rest <:+ content
  turned : ∃ front, entries content = front ++ entries rest ∧
    (entries content).rotate count = entries rest ++ front

/-- At the start the reader stands in front of the whole content. -/
theorem stands_start (content : Bytes) : Stands content 0 content where
  suffix := List.suffix_refl content
  turned := ⟨[], rfl, by rw [List.rotate_zero, List.append_nil]⟩

/-- One more line is that of the entry whose turn it is. -/
theorem Stands.next (h : Stands content count rest) :
    ∃ later, (file content rest).next =
      (((entries content).rotate count).head?.bind Entry.line?, file content later) ∧
      Stands content (count + 1) later := by
  obtain ⟨front, hfront, hturned⟩ := h.turned
  cases hrest : nextEntry rest with
  | some found =>
    obtain ⟨entry, later⟩ := found
    rw [entries_of_nextEntry hrest] at hfront hturned
    refine ⟨later, ?_, (nextEntry_suffix hrest).trans h.suffix, front ++ [entry], ?_, ?_⟩
    · rw [hturned, next_file, hrest]
      rfl
    · rw [hfront, List.append_assoc, List.singleton_append]
    · rw [← List.rotate_rotate, hturned, List.cons_append, List.rotate_cons_succ,
        List.rotate_zero, List.append_assoc]
  | none =>
    -- The reader is at the end of its file, so it starts over.
    rw [entries_of_nextEntry_eq_none hrest, List.append_nil] at hfront
    rw [entries_of_nextEntry_eq_none hrest, List.nil_append, ← hfront] at hturned
    cases hcontent : nextEntry content with
    | some found =>
      obtain ⟨entry, later⟩ := found
      have hentries := entries_of_nextEntry hcontent
      refine ⟨later, ?_, nextEntry_suffix hcontent, [entry], hentries, ?_⟩
      · rw [hturned, hentries, next_file, hrest, hcontent]
        rfl
      · rw [← List.rotate_rotate, hturned, hentries, List.rotate_cons_succ, List.rotate_zero]
    | none =>
      have hentries := entries_of_nextEntry_eq_none hcontent
      refine ⟨[], ?_, List.nil_suffix, [], ?_, ?_⟩
      · rw [hturned, hentries, next_file, hrest, hcontent]
        rfl
      · rw [hentries, entries_nil, List.nil_append]
      · rw [hentries, List.rotate_nil, entries_nil, List.nil_append]

/-- At all times it is known which entries come next. -/
theorem exists_behind (content : Bytes) (count : Nat) :
    ∃ rest, (ofFile content).behind count = file content rest ∧ Stands content count rest := by
  induction count with
  | zero => exact ⟨content, rfl, stands_start content⟩
  | succ count ih =>
    obtain ⟨rest, hrest, hstands⟩ := ih
    obtain ⟨later, hnext, hlater⟩ := hstands.next
    refine ⟨later, ?_, hlater⟩
    rw [behind_succ, hrest, hnext]

/-- What a file gives depends on its entries only. -/
theorem fst_next_behind (content : Bytes) (count : Nat) :
    ((ofFile content).behind count).next.1 =
      ((entries content).rotate count).head?.bind Entry.line? := by
  obtain ⟨rest, hrest, hstands⟩ := exists_behind content count
  obtain ⟨later, hnext, -⟩ := hstands.next
  rw [hrest, hnext]

/-! ## One call -/

/-- One line is fetched by reading one line of the file after the other. -/
inductive Call where
  /-- There is more to read. At the end of the file it is read from its start, but only once. -/
  | reading (restarted : Bool) (rest : Bytes)
  /-- The call has come to an end. -/
  | answered (answer : Option Text) (rest : Bytes)
deriving DecidableEq, Repr

/-- A call after one more line of the file, or after its end. -/
def Call.step (content : Bytes) : Call → Call
  | reading false [] => reading true content
  | reading true [] => answered none []
  | reading restarted (b :: rest) =>
    match entryOf? (takeLine (b :: rest)).1 with
    | some entry => answered entry.line? (takeLine (b :: rest)).2
    | none => reading restarted (takeLine (b :: rest)).2
  | answered answer rest => answered answer rest

/-- A call comes to the next entry, or to the end of the file, with at least one byte for each line
that is read. -/
theorem exists_iterate_reading (content : Bytes) (restarted : Bool) (rest : Bytes) :
    ∃ reads ≤ rest.length + 1, (Call.step content)^[reads] (.reading restarted rest) =
      (nextEntry rest).elim (Call.step content (.reading restarted []))
        fun found => .answered found.1.line? found.2 := by
  fun_induction nextEntry rest with
  | case1 => exact ⟨1, Nat.le_refl 1, rfl⟩
  | case2 b rest entry hentry =>
    refine ⟨1, Nat.le_add_left 1 _, ?_⟩
    rw [Function.iterate_one, Call.step, hentry]
    rfl
  | case3 b rest hentry ih =>
    obtain ⟨reads, hle, hreads⟩ := ih
    have hshorter := length_takeLine_lt b rest
    refine ⟨reads + 1, by omega, ?_⟩
    rw [Function.iterate_succ_apply, Call.step, hentry]
    exact hreads

/-- A call comes to an end, at the latest when the file has been read to its end once more. -/
theorem exists_iterate_answered (content rest : Bytes) :
    ∃ reads ≤ rest.length + content.length + 2,
      (Call.step content)^[reads] (.reading false rest) =
        ((nextEntry rest).or (nextEntry content)).elim (.answered none [])
          fun found => .answered found.1.line? found.2 := by
  obtain ⟨reads, hle, hreads⟩ := exists_iterate_reading content false rest
  cases hrest : nextEntry rest with
  | some found =>
    rw [hrest] at hreads
    exact ⟨reads, by omega, hreads⟩
  | none =>
    obtain ⟨more, hmore, hagain⟩ := exists_iterate_reading content true content
    refine ⟨more + reads, by omega, ?_⟩
    rw [Function.iterate_add_apply, hreads, hrest, Option.none_or]
    exact hagain

/-! ## Files -/

/-- The lines of a file give a number of answers, which its feed gives in turn over and over again.
If they give none, the feed gives nothing at all. It does not matter whether there is an end of line
at the end of the file, and each call comes to an end. -/
theorem rereads_file (content : Bytes) :
    (∃ answers, Gives (content.splitOn newline) answers) ∧
    (∀ answers, Gives (content.splitOn newline) answers → ∀ k,
      (answers ≠ [] →
        answers[k % answers.length]? = some ((ofFile content).behind k).next.1) ∧
      (answers = [] → ((ofFile content).behind k).next.1 = none)) ∧
    (∀ k, ((ofFile (content ++ [newline])).behind k).next.1 =
      ((ofFile content).behind k).next.1) ∧
    ∀ k, ∃ rest later, (ofFile content).behind k = file content rest ∧
      (ofFile content).behind (k + 1) = file content later ∧
      ∃ reads ≤ 2 * (content.length + 1), (Call.step content)^[reads] (.reading false rest) =
        .answered ((ofFile content).behind k).next.1 later := by
  refine ⟨⟨_, gives_filterMap _⟩, ?_, fun k => ?_, fun k => ?_⟩
  · intro answers h k
    obtain rfl : answers = (entries content).map Entry.line? :=
      h.eq_filterMap.trans (map_line?_entries content).symm
    rw [fst_next_behind]
    constructor
    · intro hne
      have hlt := Nat.mod_lt k (List.length_pos_iff.2 hne)
      have hturned : (entries content).rotate k ≠ [] := fun hnil =>
        hne (List.map_eq_nil_iff.2 (List.rotate_eq_nil_iff.1 hnil))
      rw [← List.head?_rotate hlt, List.rotate_mod, ← List.map_rotate, List.head?_map,
        List.head?_eq_some_head hturned]
      rfl
    · intro hnil
      rw [List.map_eq_nil_iff.1 hnil, List.rotate_nil]
      rfl
  · rw [fst_next_behind, fst_next_behind, entries_append_newline]
  · obtain ⟨rest, hrest, hstands⟩ := exists_behind content k
    obtain ⟨reads, hle, hreads⟩ := exists_iterate_answered content rest
    have hlength := hstands.suffix.length_le
    rw [behind_succ, hrest, next_file]
    cases hfound : (nextEntry rest).or (nextEntry content) with
    | none =>
      rw [hfound] at hreads
      exact ⟨rest, [], rfl, rfl, reads, by omega, hreads⟩
    | some found =>
      rw [hfound] at hreads
      exact ⟨rest, found.2, rfl, rfl, reads, by omega, hreads⟩

/-- A file with a comment at each end, a line that is no text and a blank line, and a file of
comments only. -/
theorem rereads_file_broken :
    let content := Utf8.encode "# top\nP=1000\n".toList ++
      0xFF :: Utf8.encode "\n\n P=1001\n# end".toList
    let comments := Utf8.encode "# top\n # end\n".toList
    Gives (content.splitOn newline) [some "P=1000".toList, none, some "P=1001".toList] ∧
    ((ofFile content).behind 3).next.1 = some "P=1000".toList ∧
    ((ofFile content).behind 4).next.1 = none ∧
    ((ofFile (content ++ [newline])).behind 5).next.1 = some "P=1001".toList ∧
    Gives (comments.splitOn newline) [] ∧ ((ofFile comments).behind 7).next.1 = none := by
  intro content comments
  have hlines : content.splitOn newline = [Utf8.encode "# top".toList,
      Utf8.encode "P=1000".toList, [0xFF], Utf8.encode [], Utf8.encode " P=1001".toList,
      Utf8.encode "# end".toList] := by decide
  have hgives : Gives (content.splitOn newline)
      [some "P=1000".toList, none, some "P=1001".toList] := by
    have hne : Text.trim " P=1001".toList ≠ [] := by decide
    have hhead : (Text.trim " P=1001".toList).head? ≠ some '#' := by decide
    rw [hlines]
    exact .skipped (by decide) <| .data (by decide) (by decide) <|
      .broken (decode?_eq_none_iff.1 (by decide)) <| .skipped (by decide) <|
      .data hne hhead <| .skipped (by decide) .nil
  have hcomments : comments.splitOn newline =
      [Utf8.encode "# top".toList, Utf8.encode " # end".toList, Utf8.encode []] := by decide
  have hnothing : Gives (comments.splitOn newline) [] := by
    rw [hcomments]
    exact .skipped (by decide) <| .skipped (by decide) <| .skipped (by decide) .nil
  obtain ⟨-, hanswers, hended, -⟩ := rereads_file content
  obtain ⟨-, hnone, -⟩ := rereads_file comments
  have hturn := fun k => (hanswers _ hgives k).1 (List.cons_ne_nil _ _)
  exact ⟨hgives, (Option.some.inj (hturn 3)).symm, (Option.some.inj (hturn 4)).symm,
    (hended 5).trans (Option.some.inj (hturn 5)).symm, hnothing, (hnone [] hnothing 7).2 rfl⟩

end Feed

end WeatherBus

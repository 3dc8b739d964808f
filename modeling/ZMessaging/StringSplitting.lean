import Mathlib

/-!
# Splitting a string into chunks of bounded UTF-8 length

`String.splitInSubstrings(maxLength)` cuts a message into chunks of at most
`maxLength` UTF-8 bytes without cutting words: it walks the words of the
string, gathering them into a chunk while the chunk fits, and hands a word
that is too long on its own to `splitWord(maxLength)`, which cuts it between
composed character sequences.

A string is modelled as the composed character sequences that
`enumerateSubstringsInRange(..., .ByComposedCharacterSequences)` yields, in
order, each a list of characters; a range of the string is a range of those
sequences, and a substring is the slice.  The word enumeration is Foundation's:
its enclosing ranges are an input of `splitInSubstrings`, either none or
non-empty ranges that follow each other from the start of the string to its
end.  `splitWord` traps when its first composed character sequence is longer
than `maxLength` on its own (`startIndex.predecessor()`), so both functions
return an `Option`.

The main results, for a `maxLength` at least the UTF-8 length of every composed
character sequence of the string:

* `splitWord` does not trap, its pieces are non-empty, fit, and make up the
  string (`splitWord_spec`);
* one enclosing range of the word loop keeps "the messages and the previous
  chunk make up the string up to here, and all fit" (`Between.block`), and the
  last one turns it into "the messages make up the string"
  (`Between.block_last`);
* `splitInSubstrings` does not trap, its chunks fit and make up the string, and
  a string that fits comes back whole (`splitInSubstrings_loses_nothing`).
-/

namespace ZMessaging

namespace StringSplitting

/-- `lengthOfBytesUsingEncoding(NSUTF8StringEncoding)` of one composed
character sequence. -/
def utf8Length (sequence : List Char) : Nat := (sequence.map Char.utf8Size).sum

/-- `lengthOfBytesUsingEncoding(NSUTF8StringEncoding)` of a string. -/
def lengthOfBytes (string : List (List Char)) : Nat := (string.map utf8Length).sum

/-- `self[startIndex..<endIndex]`. -/
def slice (string : List (List Char)) (startIndex endIndex : Nat) : List (List Char) :=
  (string.drop startIndex).take (endIndex - startIndex)

@[simp] theorem lengthOfBytes_nil : lengthOfBytes [] = 0 := rfl

@[simp] theorem lengthOfBytes_append (s t : List (List Char)) :
    lengthOfBytes (s ++ t) = lengthOfBytes s + lengthOfBytes t := by
  simp [lengthOfBytes]

@[simp] theorem lengthOfBytes_singleton (sequence : List Char) :
    lengthOfBytes [sequence] = utf8Length sequence := by
  simp [lengthOfBytes]

/-- The string up to the end of a range is the string up to its start and the
range. -/
theorem take_append_slice {string : List (List Char)} {startIndex endIndex : Nat}
    (h : startIndex ≤ endIndex) :
    string.take startIndex ++ slice string startIndex endIndex = string.take endIndex := by
  rw [slice, ← List.take_add, Nat.add_sub_cancel' h]

theorem mem_of_mem_slice {string : List (List Char)} {startIndex endIndex : Nat}
    {sequence : List Char} (h : sequence ∈ slice string startIndex endIndex) :
    sequence ∈ string :=
  List.mem_of_mem_drop (List.mem_of_mem_take h)

theorem slice_ne_nil {string : List (List Char)} {startIndex endIndex : Nat}
    (hlt : startIndex < endIndex) (hle : endIndex ≤ string.length) :
    slice string startIndex endIndex ≠ [] := by
  simp [slice, List.take_eq_nil_iff]
  omega

/-! ### `splitWord` -/

/-- The enumeration of `splitWord` from one composed character sequence on.
`current` is `self[currentStart..<substringRange.startIndex]`: it is empty
only at the first sequence, where `startIndex.predecessor()` traps. -/
def splitWordFrom (maxLength : Int) (current : List (List Char)) :
    List (List Char) → Option (List (List (List Char)))
  | [] => some []
  | sequence :: rest => do
    -- `currentSubstring` is `self[currentStart..<substringRange.endIndex]`
    let (splitted, current) ←
      if maxLength < lengthOfBytes (current ++ [sequence]) then
        if current = [] then none else some ([current], [sequence])
      else some ([], current ++ [sequence])
    -- the last sequence appends `self[currentStart..<self.endIndex]`
    if rest = [] then some (splitted ++ [current])
    else (splitted ++ ·) <$> splitWordFrom maxLength current rest

/-- `splitWord(maxLength)`. -/
def splitWord (string : List (List Char)) (maxLength : Int) :
    Option (List (List (List Char))) :=
  splitWordFrom maxLength [] string

/-- The enumeration from a sequence on, when every sequence fits and so does
`current`: no trap, and non-empty fitting pieces that make up `current` and
the rest. -/
theorem splitWordFrom_spec {maxLength : Int} :
    ∀ (rest current : List (List Char)), rest ≠ [] →
      (lengthOfBytes current : Int) ≤ maxLength →
      (∀ sequence ∈ rest, (utf8Length sequence : Int) ≤ maxLength) →
      ∃ pieces, splitWordFrom maxLength current rest = some pieces ∧
        pieces.flatten = current ++ rest ∧
        ∀ piece ∈ pieces, piece ≠ [] ∧ (lengthOfBytes piece : Int) ≤ maxLength
  | [], _, hne, _, _ => absurd rfl hne
  | sequence :: rest, current, _, hcurrent, hfits => by
    have hsequence : (utf8Length sequence : Int) ≤ maxLength := hfits sequence List.mem_cons_self
    have hrest : ∀ s ∈ rest, (utf8Length s : Int) ≤ maxLength :=
      fun s hs => hfits s (List.mem_cons_of_mem _ hs)
    by_cases hover : maxLength < (lengthOfBytes current : Int) + utf8Length sequence
    · -- the sequence starts a new piece; `current` cannot be empty then
      have hcurrent_ne : current ≠ [] := by
        rintro rfl
        simp at hover
        omega
      by_cases hlast : rest = []
      · subst hlast
        refine ⟨[current, [sequence]], ?_, by simp, ?_⟩
        · simp [splitWordFrom, hover, hcurrent_ne]
        · simp only [List.mem_cons, List.not_mem_nil, or_false]
          rintro piece (rfl | rfl)
          · exact ⟨hcurrent_ne, hcurrent⟩
          · simpa using hsequence
      · obtain ⟨pieces, hsplit, hflatten, hpieces⟩ :=
          splitWordFrom_spec rest [sequence] hlast (by simpa using hsequence) hrest
        refine ⟨current :: pieces, ?_, by simp [hflatten], ?_⟩
        · simp [splitWordFrom, hover, hcurrent_ne, hlast, hsplit]
        · rintro piece (_ | ⟨_, hpiece⟩)
          · exact ⟨hcurrent_ne, hcurrent⟩
          · exact hpieces piece hpiece
    · -- the sequence joins `current`
      have hjoined : (lengthOfBytes (current ++ [sequence]) : Int) ≤ maxLength := by
        simp only [lengthOfBytes_append, lengthOfBytes_singleton, Int.natCast_add]
        omega
      by_cases hlast : rest = []
      · subst hlast
        refine ⟨[current ++ [sequence]], ?_, by simp, ?_⟩
        · simp [splitWordFrom, hover]
        · simp only [List.mem_singleton]
          rintro piece rfl
          exact ⟨by simp, hjoined⟩
      · obtain ⟨pieces, hsplit, hflatten, hpieces⟩ :=
          splitWordFrom_spec rest (current ++ [sequence]) hlast hjoined hrest
        refine ⟨pieces, ?_, by simp [hflatten], hpieces⟩
        simp [splitWordFrom, hover, hlast, hsplit]

/-- **`splitWord` loses nothing.**  When every composed character sequence
fits, `splitWord` does not trap, and its pieces are non-empty, fit, and make
up the string. -/
theorem splitWord_spec {string : List (List Char)} {maxLength : Int}
    (hfits : ∀ sequence ∈ string, (utf8Length sequence : Int) ≤ maxLength) :
    ∃ pieces, splitWord string maxLength = some pieces ∧ pieces.flatten = string ∧
      ∀ piece ∈ pieces, piece ≠ [] ∧ (lengthOfBytes piece : Int) ≤ maxLength := by
  cases string with
  | nil => exact ⟨[], rfl, rfl, by simp⟩
  | cons sequence rest =>
    have hsequence := hfits sequence List.mem_cons_self
    have hmax : (0 : Int) ≤ maxLength := by omega
    simpa [splitWord] using splitWordFrom_spec (sequence :: rest) [] (List.cons_ne_nil _ _)
      (by simpa using hmax) hfits

/-! ### `splitInSubstrings` -/

/-- What the block of `splitInSubstrings` keeps from one word to the next. -/
structure SplitState where
  messages : List (List (List Char))
  previousChunk : Option (List (List Char))

/-- `if let previousChunk = previousChunk where !previousChunk.isEmpty
{ messages.append(previousChunk) }`. -/
def appendPreviousChunk (messages : List (List (List Char))) :
    Option (List (List Char)) → List (List (List Char))
  | some previousChunk => if previousChunk ≠ [] then messages ++ [previousChunk] else messages
  | none => messages

/-- The block `splitInSubstrings` hands to the word enumeration, for one
enclosing range; `none` when `splitWord` traps. -/
def splitInSubstringsBlock (string : List (List Char)) (maxLength : Int) (state : SplitState)
    (enclosingRange : Nat × Nat) : Option SplitState :=
  let nextChunk := slice string enclosingRange.1 enclosingRange.2
  let currentChunk := state.previousChunk.getD [] ++ nextChunk
  let endOfString := enclosingRange.2 = string.length
  let nextChunkLength := lengthOfBytes nextChunk
  let currentChunkLength := lengthOfBytes currentChunk
  if currentChunkLength ≤ maxLength then
    -- the previous and the next chunk fit together
    some ⟨if endOfString then state.messages ++ [currentChunk] else state.messages,
      some currentChunk⟩
  else
    let messages := appendPreviousChunk state.messages state.previousChunk
    if maxLength ≤ nextChunkLength then
      (fun pieces => ⟨messages ++ pieces, none⟩) <$> splitWord nextChunk maxLength
    else if endOfString then
      -- the source tests `nextChunkLength >= maxLength` again here
      if maxLength ≤ nextChunkLength then
        (fun pieces => ⟨messages ++ pieces, some nextChunk⟩) <$> splitWord nextChunk maxLength
      else some ⟨messages ++ [nextChunk], some nextChunk⟩
    else some ⟨messages, some nextChunk⟩

/-- `splitInSubstrings(maxLength)`, with the enclosing ranges of the words in
the order Foundation enumerates them. -/
def splitInSubstrings (string : List (List Char)) (maxLength : Int)
    (enclosingRanges : List (Nat × Nat)) : Option (List (List (List Char))) :=
  if ¬ maxLength < lengthOfBytes string then some [string]
  else do
    let state ← enclosingRanges.foldlM (splitInSubstringsBlock string maxLength) ⟨[], none⟩
    if 0 < state.messages.length then some state.messages else splitWord string maxLength

/-- Enclosing ranges that follow each other from `startIndex` to `endIndex`,
each non-empty since it contains its word. -/
def RangesCover : Nat → List (Nat × Nat) → Nat → Prop
  | startIndex, [], endIndex => startIndex = endIndex
  | startIndex, range :: ranges, endIndex =>
    range.1 = startIndex ∧ range.1 < range.2 ∧ RangesCover range.2 ranges endIndex

theorem RangesCover.lt {startIndex endIndex : Nat} :
    ∀ {ranges : List (Nat × Nat)}, ranges ≠ [] → RangesCover startIndex ranges endIndex →
      startIndex < endIndex
  | [], hne, _ => absurd rfl hne
  | [range], _, ⟨hstart, hlt, hend⟩ => by
    simp only [RangesCover] at hend
    omega
  | range :: next :: ranges, _, ⟨hstart, hlt, hcover⟩ => by
    have := RangesCover.lt (List.cons_ne_nil next ranges) hcover
    omega

theorem appendPreviousChunk_flatten (messages : List (List (List Char)))
    (previousChunk : Option (List (List Char))) :
    (appendPreviousChunk messages previousChunk).flatten =
      messages.flatten ++ previousChunk.getD [] := by
  cases previousChunk with
  | none => simp [appendPreviousChunk]
  | some previousChunk =>
    by_cases hempty : previousChunk = []
    · simp [appendPreviousChunk, hempty]
    · simp [appendPreviousChunk, hempty]

theorem mem_appendPreviousChunk {messages : List (List (List Char))}
    {previousChunk : Option (List (List Char))} {message : List (List Char)}
    (h : message ∈ appendPreviousChunk messages previousChunk) :
    message ∈ messages ∨ message = previousChunk.getD [] := by
  cases previousChunk with
  | none => exact .inl h
  | some previousChunk =>
    by_cases hempty : previousChunk = []
    · simp only [appendPreviousChunk, hempty, ne_eq, not_true_eq_false, if_false] at h
      exact .inl h
    · simp only [appendPreviousChunk, hempty, ne_eq, not_false_eq_true, if_true,
        List.mem_append, List.mem_singleton] at h
      simpa using h

variable {string : List (List Char)} {maxLength : Int}

/-- Between two words: the messages and the previous chunk make up the string
up to `position`, and all of them fit. -/
structure Between (string : List (List Char)) (maxLength : Int) (position : Nat)
    (state : SplitState) : Prop where
  flatten_eq : state.messages.flatten ++ state.previousChunk.getD [] = string.take position
  messages_fit : ∀ message ∈ state.messages, (lengthOfBytes message : Int) ≤ maxLength
  previous_fit : (lengthOfBytes (state.previousChunk.getD []) : Int) ≤ maxLength

/-- Flushing the previous chunk keeps every message fitting. -/
theorem Between.appendPreviousChunk_fit {position : Nat} {state : SplitState}
    (hb : Between string maxLength position state) :
    ∀ message ∈ appendPreviousChunk state.messages state.previousChunk,
      (lengthOfBytes message : Int) ≤ maxLength := by
  intro message hmessage
  rcases mem_appendPreviousChunk hmessage with hmem | rfl
  · exact hb.messages_fit message hmem
  · exact hb.previous_fit

/-- **A word too long to start a chunk** is cut by `splitWord`, whether or not
it is the last: the flushed messages and the pieces make up the string up to
the end of the word, and all of them fit. -/
theorem Between.block_cut {range : Nat × Nat} {state : SplitState}
    (hb : Between string maxLength range.1 state) (hrange : range.1 < range.2)
    (hfits : ∀ sequence ∈ string, (utf8Length sequence : Int) ≤ maxLength)
    (hcurrent : ¬ (lengthOfBytes (state.previousChunk.getD [] ++
      slice string range.1 range.2) : Int) ≤ maxLength)
    (hlong : maxLength ≤ lengthOfBytes (slice string range.1 range.2)) :
    ∃ pieces, splitInSubstringsBlock string maxLength state range =
        some ⟨appendPreviousChunk state.messages state.previousChunk ++ pieces, none⟩ ∧
      (appendPreviousChunk state.messages state.previousChunk ++ pieces).flatten =
        string.take range.2 ∧
      ∀ message ∈ appendPreviousChunk state.messages state.previousChunk ++ pieces,
        (lengthOfBytes message : Int) ≤ maxLength := by
  have htake : string.take range.1 ++ slice string range.1 range.2 = string.take range.2 :=
    take_append_slice (Nat.le_of_lt hrange)
  have hnextFits : ∀ sequence ∈ slice string range.1 range.2,
      (utf8Length sequence : Int) ≤ maxLength :=
    fun sequence hmem => hfits sequence (mem_of_mem_slice hmem)
  have hflush := appendPreviousChunk_flatten state.messages state.previousChunk
  obtain ⟨pieces, hsplit, hflatten, hpieces⟩ := splitWord_spec hnextFits
  refine ⟨pieces, ?_, ?_, ?_⟩
  · simp only [splitInSubstringsBlock, if_neg hcurrent, if_pos hlong, hsplit]
    rfl
  · simp only [List.flatten_append, hflatten, hflush, List.append_assoc]
    rw [← List.append_assoc, hb.flatten_eq, htake]
  · intro message hmessage
    rcases List.mem_append.mp hmessage with hmem | hmem
    · exact hb.appendPreviousChunk_fit message hmem
    · exact (hpieces message hmem).2

/-- **One word that is not the last** keeps the messages and the previous
chunk making up the string up to the end of the word, all of them fitting. -/
theorem Between.block {range : Nat × Nat} {state : SplitState}
    (hb : Between string maxLength range.1 state) (hrange : range.1 < range.2)
    (hend : range.2 < string.length)
    (hfits : ∀ sequence ∈ string, (utf8Length sequence : Int) ≤ maxLength) :
    ∃ state', splitInSubstringsBlock string maxLength state range = some state' ∧
      Between string maxLength range.2 state' := by
  have hnotEnd : range.2 ≠ string.length := by omega
  have htake : string.take range.1 ++ slice string range.1 range.2 = string.take range.2 :=
    take_append_slice (Nat.le_of_lt hrange)
  by_cases hcurrent : (lengthOfBytes (state.previousChunk.getD [] ++
      slice string range.1 range.2) : Int) ≤ maxLength
  · -- the word joins the previous chunk
    have hblock : splitInSubstringsBlock string maxLength state range =
        some ⟨state.messages, some (state.previousChunk.getD [] ++ slice string range.1 range.2)⟩ := by
      simp only [splitInSubstringsBlock, if_pos hcurrent, if_neg hnotEnd]
    refine ⟨_, hblock, ?_, hb.messages_fit, by simpa using hcurrent⟩
    simp only [Option.getD_some]
    rw [← List.append_assoc, hb.flatten_eq, htake]
  · have hflush := appendPreviousChunk_flatten state.messages state.previousChunk
    by_cases hlong : maxLength ≤ lengthOfBytes (slice string range.1 range.2)
    · -- the word is cut by `splitWord`
      obtain ⟨pieces, hblock, hflatten, hfit⟩ := hb.block_cut hrange hfits hcurrent hlong
      refine ⟨_, hblock, ?_, hfit, ?_⟩
      · simpa only [Option.getD_none, List.append_nil] using hflatten
      · have hmax : (0 : Int) ≤ maxLength := by
          have := hb.previous_fit
          omega
        simpa using hmax
    · -- the word starts the next chunk
      have hblock : splitInSubstringsBlock string maxLength state range =
          some ⟨appendPreviousChunk state.messages state.previousChunk,
            some (slice string range.1 range.2)⟩ := by
        simp only [splitInSubstringsBlock, if_neg hcurrent, if_neg hlong, if_neg hnotEnd]
      refine ⟨_, hblock, ?_, hb.appendPreviousChunk_fit, ?_⟩
      · simp only [hflush, Option.getD_some, List.append_assoc]
        rw [← List.append_assoc, hb.flatten_eq, htake]
      · simp only [Option.getD_some]
        omega

/-- **The last word** leaves messages that make up the whole string, all of
them fitting. -/
theorem Between.block_last {range : Nat × Nat} {state : SplitState}
    (hb : Between string maxLength range.1 state) (hrange : range.1 < range.2)
    (hend : range.2 = string.length)
    (hfits : ∀ sequence ∈ string, (utf8Length sequence : Int) ≤ maxLength) :
    ∃ state', splitInSubstringsBlock string maxLength state range = some state' ∧
      state'.messages.flatten = string ∧
      ∀ message ∈ state'.messages, (lengthOfBytes message : Int) ≤ maxLength := by
  have htake : string.take range.1 ++ slice string range.1 range.2 = string := by
    rw [take_append_slice (Nat.le_of_lt hrange), hend, List.take_length]
  by_cases hcurrent : (lengthOfBytes (state.previousChunk.getD [] ++
      slice string range.1 range.2) : Int) ≤ maxLength
  · -- the word joins the previous chunk, which is the last message
    have hblock : splitInSubstringsBlock string maxLength state range =
        some ⟨state.messages ++ [state.previousChunk.getD [] ++ slice string range.1 range.2],
          some (state.previousChunk.getD [] ++ slice string range.1 range.2)⟩ := by
      simp only [splitInSubstringsBlock, if_pos hcurrent, if_pos hend]
    refine ⟨_, hblock, ?_, ?_⟩
    · simp only [List.flatten_append, List.flatten_singleton]
      rw [← List.append_assoc, hb.flatten_eq, htake]
    · intro message hmessage
      rcases List.mem_append.mp hmessage with hmem | hmem
      · exact hb.messages_fit message hmem
      · rw [List.mem_singleton.mp hmem]
        exact hcurrent
  · have hflush := appendPreviousChunk_flatten state.messages state.previousChunk
    by_cases hlong : maxLength ≤ lengthOfBytes (slice string range.1 range.2)
    · -- the word is cut by `splitWord`
      obtain ⟨pieces, hblock, hflatten, hfit⟩ := hb.block_cut hrange hfits hcurrent hlong
      refine ⟨_, hblock, ?_, hfit⟩
      rw [hflatten, hend, List.take_length]
    · -- the word is the last message on its own
      have hblock : splitInSubstringsBlock string maxLength state range =
          some ⟨appendPreviousChunk state.messages state.previousChunk ++
            [slice string range.1 range.2], some (slice string range.1 range.2)⟩ := by
        simp only [splitInSubstringsBlock, if_neg hcurrent, if_neg hlong, if_pos hend]
      refine ⟨_, hblock, ?_, ?_⟩
      · simp only [List.flatten_append, List.flatten_singleton, hflush, List.append_assoc]
        rw [← List.append_assoc, hb.flatten_eq, htake]
      · intro message hmessage
        rcases List.mem_append.mp hmessage with hmem | hmem
        · exact hb.appendPreviousChunk_fit message hmem
        · rw [List.mem_singleton.mp hmem]
          omega

/-- The whole word loop, from a word on to the last one. -/
theorem Between.foldlM
    (hfits : ∀ sequence ∈ string, (utf8Length sequence : Int) ≤ maxLength) :
    ∀ (ranges : List (Nat × Nat)) (position : Nat) (state : SplitState), ranges ≠ [] →
      RangesCover position ranges string.length → Between string maxLength position state →
      ∃ state', ranges.foldlM (splitInSubstringsBlock string maxLength) state = some state' ∧
        state'.messages.flatten = string ∧
        ∀ message ∈ state'.messages, (lengthOfBytes message : Int) ≤ maxLength
  | [], _, _, hne, _, _ => absurd rfl hne
  | [range], position, state, _, ⟨hstart, hlt, hend⟩, hb => by
    subst hstart
    obtain ⟨state', hblock, hflatten, hmessages⟩ := hb.block_last hlt hend hfits
    exact ⟨state', by simp [hblock], hflatten, hmessages⟩
  | range :: next :: ranges, position, state, _, ⟨hstart, hlt, hcover⟩, hb => by
    subst hstart
    have hend : range.2 < string.length := hcover.lt (List.cons_ne_nil next ranges)
    obtain ⟨state', hblock, hb'⟩ := hb.block hlt hend hfits
    obtain ⟨state'', hfold, hflatten, hmessages⟩ :=
      Between.foldlM hfits (next :: ranges) range.2 state' (List.cons_ne_nil _ _) hcover hb'
    refine ⟨state'', ?_, hflatten, hmessages⟩
    rw [List.foldlM_cons, hblock]
    exact hfold

/-- **Splitting loses nothing and respects the limit.**  For a `maxLength` at
least the UTF-8 length of every composed character sequence of the string,
and word enclosing ranges that are absent or cover the string:
`splitWord` does not trap and gives non-empty fitting pieces that make up the
string; `splitInSubstrings` does not trap and gives fitting chunks that make
up the string; and a string that fits comes back as the only chunk. -/
theorem splitInSubstrings_loses_nothing (string : List (List Char)) (maxLength : Int)
    (hfits : ∀ sequence ∈ string, (utf8Length sequence : Int) ≤ maxLength)
    (enclosingRanges : List (Nat × Nat))
    (hranges : enclosingRanges = [] ∨ RangesCover 0 enclosingRanges string.length) :
    (∃ pieces, splitWord string maxLength = some pieces ∧ pieces.flatten = string ∧
        ∀ piece ∈ pieces, piece ≠ [] ∧ (lengthOfBytes piece : Int) ≤ maxLength) ∧
      (∃ chunks, splitInSubstrings string maxLength enclosingRanges = some chunks ∧
        chunks.flatten = string ∧ ∀ chunk ∈ chunks, (lengthOfBytes chunk : Int) ≤ maxLength) ∧
      ((lengthOfBytes string : Int) ≤ maxLength →
        splitInSubstrings string maxLength enclosingRanges = some [string]) := by
  obtain ⟨pieces, hsplit, hflatten, hpieces⟩ := splitWord_spec hfits
  have hwhole : (lengthOfBytes string : Int) ≤ maxLength →
      splitInSubstrings string maxLength enclosingRanges = some [string] := by
    intro hfit
    simp [splitInSubstrings, Int.not_lt.mpr hfit]
  refine ⟨⟨pieces, hsplit, hflatten, hpieces⟩, ?_, hwhole⟩
  by_cases hfit : (lengthOfBytes string : Int) ≤ maxLength
  · exact ⟨[string], hwhole hfit, by simp, by simpa using hfit⟩
  · -- the word loop runs; its messages, or else `splitWord`'s pieces, are the result
    have hpiecesFit : ∀ piece ∈ pieces, (lengthOfBytes piece : Int) ≤ maxLength :=
      fun piece hpiece => (hpieces piece hpiece).2
    have hresult : ∀ state : SplitState,
        enclosingRanges.foldlM (splitInSubstringsBlock string maxLength) ⟨[], none⟩ = some state →
        (0 < state.messages.length → state.messages.flatten = string ∧
          ∀ message ∈ state.messages, (lengthOfBytes message : Int) ≤ maxLength) →
        ∃ chunks, splitInSubstrings string maxLength enclosingRanges = some chunks ∧
          chunks.flatten = string ∧ ∀ chunk ∈ chunks, (lengthOfBytes chunk : Int) ≤ maxLength := by
      intro state hfold hmessages
      by_cases hnonempty : 0 < state.messages.length
      · exact ⟨state.messages, by simp [splitInSubstrings, hfit, hfold, hnonempty],
          hmessages hnonempty⟩
      · exact ⟨pieces, by simp [splitInSubstrings, hfit, hfold, hnonempty, hsplit], hflatten,
          hpiecesFit⟩
    rcases hranges with rfl | hcover
    · exact hresult ⟨[], none⟩ rfl (by simp)
    · by_cases hnil : enclosingRanges = []
      · subst hnil
        exact hresult ⟨[], none⟩ rfl (by simp)
      · have hstring : string ≠ [] := by
          intro hempty
          have := hcover.lt hnil
          simp [hempty] at this
        obtain ⟨sequence, hsequence⟩ := List.exists_mem_of_ne_nil string hstring
        have hmax : (0 : Int) ≤ maxLength := by
          have := hfits sequence hsequence
          omega
        have hstart : Between string maxLength 0 ⟨[], none⟩ :=
          ⟨by simp, by simp, by simpa using hmax⟩
        obtain ⟨state, hfold, hflat, hmessages⟩ :=
          Between.foldlM hfits enclosingRanges 0 ⟨[], none⟩ hnil hcover hstart
        exact hresult state hfold fun _ => ⟨hflat, hmessages⟩

/-- The string "ab cd" in chunks of at most three bytes, with the words
"ab " and "cd". -/
theorem splitInSubstrings_loses_nothing_two_words :
    (∀ sequence ∈ [['a'], ['b'], [' '], ['c'], ['d']], (utf8Length sequence : Int) ≤ 3) ∧
      ([(0, 3), (3, 5)] = [] ∨ RangesCover 0 [(0, 3), (3, 5)] 5) ∧
      (∃ pieces, splitWord [['a'], ['b'], [' '], ['c'], ['d']] 3 = some pieces ∧
          pieces.flatten = [['a'], ['b'], [' '], ['c'], ['d']] ∧
          ∀ piece ∈ pieces, piece ≠ [] ∧ (lengthOfBytes piece : Int) ≤ 3) ∧
        (∃ chunks, splitInSubstrings [['a'], ['b'], [' '], ['c'], ['d']] 3 [(0, 3), (3, 5)] =
            some chunks ∧ chunks.flatten = [['a'], ['b'], [' '], ['c'], ['d']] ∧
            ∀ chunk ∈ chunks, (lengthOfBytes chunk : Int) ≤ 3) ∧
        ((lengthOfBytes [['a'], ['b'], [' '], ['c'], ['d']] : Int) ≤ 3 →
          splitInSubstrings [['a'], ['b'], [' '], ['c'], ['d']] 3 [(0, 3), (3, 5)] =
            some [[['a'], ['b'], [' '], ['c'], ['d']]]) :=
  have hfits : ∀ sequence ∈ [['a'], ['b'], [' '], ['c'], ['d']],
      (utf8Length sequence : Int) ≤ 3 := by decide
  have hranges : [(0, 3), (3, 5)] = [] ∨ RangesCover 0 [(0, 3), (3, 5)] 5 :=
    .inr (by simp [RangesCover])
  ⟨hfits, hranges, splitInSubstrings_loses_nothing _ 3 hfits _ hranges⟩

end StringSplitting

end ZMessaging

import Corebank.Statements

/-!
# Splitting a script

`_statements` gives back the statements a script was written from exactly when none of them, and no
comment between them, has a character that only one of the two readings looks at.
-/

namespace Corebank
open Library

/-! ## Comment lines -/

theorem commentLine_iff {line : List Char} :
    commentLine line ↔ ['-', '-'] <+: line.dropWhile isSpace := by
  rw [commentLine, List.isPrefixOf_iff_prefix]
  refine Text.prefix_strip ?_
  simp [isSpace]

theorem commentLine_mono {line longer : List Char} (begins : line <+: longer)
    (comment : commentLine line) : commentLine longer := by
  obtain ⟨rest, rfl⟩ := begins
  rw [commentLine_iff] at comment ⊢
  rw [List.dropWhile_append]
  split
  · rename_i none
    rw [List.isEmpty_iff.mp none] at comment
    exact absurd comment (by decide)
  · exact comment.trans (List.prefix_append _ _)

theorem commentLine_terminated (line : List Char) :
    commentLine (line ++ [';']) = commentLine line := by
  rw [Bool.eq_iff_iff]
  constructor
  · intro comment
    rw [commentLine_iff, List.dropWhile_append] at comment
    rw [commentLine_iff]
    split at comment
    · exact absurd comment (by decide)
    · rcases List.prefix_concat_iff.mp comment with all | begins
      · have := congrArg List.getLast? all
        simp at this
      · exact begins
  · exact commentLine_mono (List.prefix_append _ _)

/-! ## The kept lines of a script -/

/-- The kept lines, each with its newline. -/
def kept (sql : List Char) : List Char := Text.unlines '\n' (keptLines sql)

theorem statements_eq (sql : List Char) : statements sql = Text.fields isSpace ';' (kept sql) := by
  rw [statements, kept]
  by_cases none : keptLines sql = []
  · rw [none]
    rfl
  · rw [← Text.intercalate_append _ none]
    have blank : ∀ c ∈ ['\n'], isSpace c := List.forall_mem_singleton.mpr (by decide)
    exact (Text.fields_append_blank _ blank (by decide)).symm

theorem kept_append_cons (xs ys : List Char) :
    kept (xs ++ '\n' :: ys) = kept (xs ++ ['\n']) ++ kept ys := by
  simp only [kept, keptLines, splitlines_append_cons xs ys, List.filter_append, Text.unlines,
    List.flatMap_append]

theorem kept_fillers (fillers : List Filler) (rest : List Char) :
    kept (fillers.flatMap Filler.line ++ rest) =
      fillers.flatMap (fun f => kept f.line) ++ kept rest := by
  induction fillers with
  | nil => rfl
  | cons f fillers ih =>
      have split : (f :: fillers).flatMap Filler.line ++ rest =
          f.text ++ '\n' :: (fillers.flatMap Filler.line ++ rest) := by
        simp [Filler.line]
      rw [split, kept_append_cons, ih, List.flatMap_cons, List.append_assoc, Filler.line]

theorem kept_break {sql : List Char} {c : Char} (mem : c ∈ kept sql) (isBreak : isLineBreak c) :
    c = '\n' := by
  rw [kept, Text.unlines, List.mem_flatMap] at mem
  obtain ⟨line, mem, mem'⟩ := mem
  rw [List.mem_append, List.mem_singleton] at mem'
  rcases mem' with mem' | rfl
  · have mem := (List.mem_filter.mp mem).1
    exact unifyBreaks_break (Text.subset_of_mem_lines mem mem') isBreak
  · rfl

/-! ## When the two readings agree -/

def SqlStatement.lines (s : SqlStatement) : List (List Char) := Text.lines '\n' (s.text ++ ['\n'])

structure SqlStatement.Plain (s : SqlStatement) : Prop where
  /-- No literal, quoted identifier or comment contains the terminator. -/
  oneChunk : ';' ∉ s.text
  /-- Of the line boundaries of `splitlines` there is only the newline. -/
  newlines : ∀ c ∈ s.text, isLineBreak c → c = '\n'
  noCommentLine : ∀ line ∈ s.lines.tail, commentLine line = false
  trimmed : strip s.text = s.text

/-- What is left of the line once its comment lines are dropped, all of it if a line boundary
inside a comment ends the comment, is white space and terminators. -/
def Filler.Harmless (f : Filler) : Prop :=
  ∀ line ∈ splitlines f.line, commentLine line = false → ∀ c ∈ line, isSpace c ∨ c = ';'

structure Script.Plain (script : Script) : Prop where
  statements : ∀ e ∈ script.entries, e.2.Plain
  between : ∀ e ∈ script.entries, ∀ f ∈ e.1, f.Harmless
  trailer : ∀ f ∈ script.trailer, f.Harmless

section
variable (s : SqlStatement)

theorem SqlStatement.text_ne_nil : s.text ≠ [] := by
  intro none
  have := s.proper
  simp [isStatement, none] at this

theorem SqlStatement.noComment : ¬ ['-', '-'] <+: s.text := by
  have := s.proper
  simp only [isStatement, Bool.and_eq_true, Bool.not_eq_true'] at this
  intro begins
  rw [← List.isPrefixOf_iff_prefix] at begins
  rw [begins] at this
  exact absurd this.1.2 (by decide)

theorem SqlStatement.written_ends : ∃ body, s.written = body ++ ['\n'] := by
  rw [SqlStatement.written]
  cases s.ownLine with
  | true => exact ⟨s.text ++ ['\n', ';'], by simp [terminator]⟩
  | false => exact ⟨s.text ++ [';'], by simp [terminator]⟩

variable {s} (plain : s.Plain)
include plain

theorem SqlStatement.Plain.first_line {line : List Char} (begins : line <+: s.text ++ ['\n']) :
    commentLine line = false := by
  by_contra comment
  rw [Bool.not_eq_false] at comment
  have comment := commentLine_iff.mp (commentLine_mono begins comment)
  have first := Text.dropWhile_of_trimmed plain.trimmed
  rw [List.dropWhile_append, first, if_neg (by simpa using s.text_ne_nil),
    List.prefix_concat_iff] at comment
  rcases comment with all | begins
  · have := congrArg List.getLast? all
    simp at this
  · exact s.noComment begins

theorem SqlStatement.Plain.lines_kept : ∀ line ∈ s.lines, commentLine line = false := by
  have whole : Text.unlines '\n' s.lines = s.text ++ ['\n'] := Text.unlines_lines s.text
  cases h : s.lines with
  | nil => simp
  | cons first rest =>
      have tail := plain.noCommentLine
      rw [h] at whole tail
      rw [List.forall_mem_cons]
      constructor
      · apply plain.first_line
        rw [← whole, Text.unlines, List.flatMap_cons, List.append_assoc]
        exact List.prefix_append _ _
      · exact tail

theorem SqlStatement.Plain.written_lines :
    ∀ line ∈ Text.lines '\n' s.written, commentLine line = false := by
  have all := plain.lines_kept
  rw [SqlStatement.written]
  cases s.ownLine with
  | true =>
      have split : s.text ++ terminator true = s.text ++ '\n' :: [';', '\n'] := rfl
      rw [split, Text.lines_append_cons, List.forall_mem_append]
      exact ⟨all, by decide⟩
  | false =>
      have single : '\n' ∉ [';'] := by decide
      obtain ⟨init, last, before, after⟩ := Text.lines_extend s.text single
      rw [SqlStatement.lines, before, List.forall_mem_append] at all
      have split : s.text ++ terminator false = s.text ++ [';'] ++ ['\n'] := by simp [terminator]
      rw [split, after, List.forall_mem_append]
      refine ⟨all.1, fun line mem => ?_⟩
      rw [List.mem_singleton.mp mem, commentLine_terminated]
      exact all.2 last (List.mem_singleton_self _)

theorem SqlStatement.Plain.kept_written : kept s.written = s.written := by
  have unified : ∀ c ∈ s.written, isLineBreak c → c = '\n' := by
    have ends : ∀ c ∈ terminator s.ownLine, isLineBreak c → c = '\n' := by
      cases s.ownLine <;> simp [terminator, isLineBreak]
    exact List.forall_mem_append.mpr ⟨plain.newlines, ends⟩
  have filtered : keptLines s.written = Text.lines '\n' s.written := by
    rw [keptLines, splitlines, unifyBreaks_eq_self unified, List.filter_eq_self]
    intro line mem
    rw [plain.written_lines line mem]
    rfl
  obtain ⟨body, ends⟩ := s.written_ends
  rw [kept, filtered, ends, Text.unlines_lines]

end

/-! ## What is yielded is plain -/

theorem plain_of_yielded {s : SqlStatement} {sql : List Char} (mem : s.text ∈ statements sql) :
    s.Plain := by
  rw [statements_eq, Text.mem_fields] at mem
  obtain ⟨-, chunk, mem, stripped⟩ := mem
  obtain ⟨one, before, after, split, -, -⟩ := Text.mem_splitOn.mp mem
  have inChunk : s.text <:+: chunk := stripped ▸ Text.strip_infix isSpace chunk
  have part : s.text <:+: kept sql := inChunk.trans ⟨before, after, split.symm⟩
  constructor
  · exact fun terminator => one (inChunk.subset terminator)
  · exact fun c mem => kept_break (part.subset mem)
  · intro line mem
    have single : ∀ l ∈ keptLines sql, '\n' ∉ l := fun l mem =>
      Text.not_mem_lines (List.mem_filter.mp mem).1
    rcases Text.tail_lines_of_infix single part line mem with rfl | ⟨l, mem, begins⟩
    · decide
    · have plain : commentLine l = false := by simpa using (List.mem_filter.mp mem).2
      by_contra comment
      rw [Bool.not_eq_false] at comment
      rw [commentLine_mono begins comment] at plain
      cases plain
  · rw [← stripped]
    exact Text.strip_idem chunk

/-! ## Entry by entry -/

theorem harmless_iff {f : Filler} :
    f.Harmless ↔ Text.fields isSpace ';' (kept f.line) = [] := by
  rw [Text.fields_eq_nil, kept, keptLines, Text.unlines]
  simp only [List.mem_flatMap, List.mem_filter, List.mem_append, List.mem_singleton]
  constructor
  · rintro harmless c ⟨line, ⟨mem, keep⟩, inLine | rfl⟩
    · exact harmless line mem (by simpa using keep) c inLine
    · exact Or.inl (by decide)
  · intro h line mem keep c inLine
    exact h c ⟨line, ⟨mem, by simpa using keep⟩, Or.inl inLine⟩

theorem fillers_harmless {fillers : List Filler} : (∀ f ∈ fillers, f.Harmless) ↔
    Text.fields isSpace ';' (fillers.flatMap fun f => kept f.line) = [] := by
  simp only [harmless_iff, Text.fields_eq_nil, List.mem_flatMap]
  constructor
  · rintro h c ⟨f, mem, inLine⟩
    exact h f mem c inLine
  · exact fun h f mem c inLine => h c ⟨f, mem, inLine⟩

theorem SqlStatement.Plain.kept_entry {s : SqlStatement} (plain : s.Plain) (fillers : List Filler)
    (rest : List Char) :
    kept (fillers.flatMap Filler.line ++ s.written ++ rest) =
      (fillers.flatMap fun f => kept f.line) ++ s.written ++ kept rest := by
  obtain ⟨body, ends⟩ := s.written_ends
  have whole := plain.kept_written
  rw [ends] at whole ⊢
  rw [List.append_assoc, kept_fillers, List.append_assoc, List.singleton_append, kept_append_cons,
    whole]
  simp only [List.append_assoc]

theorem SqlStatement.fields_entry (s : SqlStatement) (before rest : List Char) :
    Text.fields isSpace ';' (before ++ s.written ++ rest) =
      Text.fields isSpace ';' (before ++ s.text) ++ Text.fields isSpace ';' rest := by
  have space : Text.fields isSpace ';' ['\n'] = [] := by decide
  have after := Text.fields_skip space rest
  obtain ⟨sep, written, blanks, none⟩ : ∃ sep, s.written = s.text ++ sep ++ [';', '\n'] ∧
      (∀ c ∈ sep, isSpace c) ∧ ';' ∉ sep := by
    rw [SqlStatement.written]
    cases s.ownLine with
    | true => exact ⟨['\n'], by simp [terminator], by simp [isSpace], by decide⟩
    | false => exact ⟨[], by simp [terminator], by simp [isSpace], by decide⟩
  calc Text.fields isSpace ';' (before ++ s.written ++ rest)
      = Text.fields isSpace ';' ((before ++ s.text ++ sep) ++ ';' :: (['\n'] ++ rest)) := by
        simp [written]
    _ = Text.fields isSpace ';' (before ++ s.text) ++ Text.fields isSpace ';' rest := by
        rw [Text.fields_append_cons, after, Text.fields_append_blank _ blanks none]

theorem Script.length_le {entries : List (List Filler × SqlStatement)}
    (plain : ∀ e ∈ entries, e.2.Plain) (rest : List Char) :
    entries.length ≤ (Text.fields isSpace ';' (kept
      ((entries.flatMap fun e => e.1.flatMap Filler.line ++ e.2.written) ++ rest))).length := by
  induction entries with
  | nil => exact Nat.zero_le _
  | cons e entries ih =>
      rw [List.forall_mem_cons] at plain
      have more := Text.fields_append_ne_nil e.2.text_ne_nil plain.1.trimmed plain.1.oneChunk
        (e.1.flatMap fun f => kept f.line)
      have length := List.length_pos_iff.mpr more
      rw [List.flatMap_cons, List.append_assoc, plain.1.kept_entry, e.2.fields_entry,
        List.length_append, List.length_cons]
      have := ih plain.2
      omega

theorem Script.fields_iff {entries : List (List Filler × SqlStatement)}
    (plain : ∀ e ∈ entries, e.2.Plain) (trailer : List Filler) :
    Text.fields isSpace ';' (kept
      ((entries.flatMap fun e => e.1.flatMap Filler.line ++ e.2.written) ++
        trailer.flatMap Filler.line)) = entries.map (fun e => e.2.text) ↔
      (∀ e ∈ entries, ∀ f ∈ e.1, f.Harmless) ∧ ∀ f ∈ trailer, f.Harmless := by
  induction entries with
  | nil =>
      have := kept_fillers trailer []
      rw [List.append_nil] at this
      rw [List.flatMap_nil, List.nil_append, this, fillers_harmless]
      simp [kept, keptLines, splitlines, unifyBreaks, Text.lines, Text.unlines]
  | cons e entries ih =>
      rw [List.forall_mem_cons] at plain
      have first := Text.fields_append_eq_iff e.2.text_ne_nil plain.1.trimmed plain.1.oneChunk
        (e.1.flatMap fun f => kept f.line)
      have more := Text.fields_append_ne_nil e.2.text_ne_nil plain.1.trimmed plain.1.oneChunk
        (e.1.flatMap fun f => kept f.line)
      have length := Script.length_le plain.2 (trailer.flatMap Filler.line)
      rw [List.flatMap_cons, List.append_assoc, plain.1.kept_entry, e.2.fields_entry,
        List.map_cons, List.forall_mem_cons, fillers_harmless, and_assoc, ← ih plain.2, ← first]
      constructor
      · intro h
        have := congrArg List.length h
        rw [List.length_append, List.length_cons, List.length_map] at this
        have := List.length_pos_iff.mpr more
        exact List.append_inj h (by rw [List.length_singleton]; omega)
      · intro h
        rw [h.1, h.2, List.singleton_append]

/-! ## The script -/

theorem statements_iff (script : Script) :
    statements script.text = script.texts ↔ script.Plain := by
  constructor
  · intro h
    have plain : ∀ e ∈ script.entries, e.2.Plain := by
      intro e mem
      have yielded : e.2.text ∈ statements script.text := by
        rw [h]
        exact List.mem_map_of_mem mem
      exact plain_of_yielded yielded
    rw [statements_eq, Script.text, Script.texts, Script.fields_iff plain] at h
    exact ⟨plain, h.1, h.2⟩
  · intro plain
    rw [statements_eq, Script.text, Script.texts, Script.fields_iff plain.statements]
    exact ⟨plain.between, plain.trailer⟩

def noteScript : Script where
  entries := [([], ⟨"INSERT INTO note VALUES ('a;b')".toList, false, by decide⟩)]
  trailer := []

/-- The literal `'a;b'` is cut in two. -/
theorem literal_split : ¬ statements noteScript.text = noteScript.texts := by
  decide

end Corebank

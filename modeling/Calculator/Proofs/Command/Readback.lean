import Calculator.Proofs.Command.Stream

namespace Calculator

/-- The parts of a text before and after the last place where a word stands in it. -/
def splitAtLast? (word : List Char) : List Char → Option (List Char × List Char)
  | [] => none
  | c :: cs =>
    match splitAtLast? word cs with
    | some (before, after) => some (c :: before, after)
    | none => if word <+: c :: cs then some ([], (c :: cs).drop word.length) else none

/-- The line that a history line is about, and what it shows as its result. -/
def readHistoryLine? (text : String) : Option (String × String) :=
  (splitAtLast? " = ".toList text.toList).map fun p => (.ofList p.1, .ofList p.2)

def cutAtLineFeeds (text : String) : List String :=
  (pieces '\n' text.toList).map String.ofList

def entryLines (text : String) : List String :=
  nonBlank ((splitLines text.toList).map String.ofList)

/-- A run on a text, which is all of a file or of the standard input, for postfix forms or for
values. -/
def RunsOn (arguments : List String) (s : Surroundings) (rpn : Bool) (text : String) : Prop :=
  ∃ o bytes, Options.ofArguments arguments = .ok o ∧ decide (.rpn ∈ o.flags) = rpn ∧
    o.origin.content? s = some bytes ∧ String.fromUTF8? bytes = some text

variable {word as bs cs : List Char} {c : Char} {line text : String} {rpn : Bool}
  {arguments : List String} {s : Surroundings}

theorem splitAtLast?_eq_none (h : ¬word <:+: cs) : splitAtLast? word cs = none := by
  induction cs with
  | nil => rfl
  | cons c cs ih =>
    rw [List.infix_cons_iff, not_or] at h
    rw [splitAtLast?, ih h.2]
    exact if_neg h.1

/-- A place is the last one if the word does not stand anywhere behind its first character. -/
theorem splitAtLast?_append (h : ¬word <:+: cs ++ bs) (hw : word = c :: cs) (as : List Char) :
    splitAtLast? word (as ++ word ++ bs) = some (as, bs) := by
  induction as with
  | nil =>
    have hp : word <+: c :: (cs ++ bs) := by
      rw [hw, ← List.cons_append]
      exact List.prefix_append _ _
    have hd : (c :: (cs ++ bs)).drop word.length = bs := by
      rw [hw, ← List.cons_append, List.drop_left]
    rw [List.nil_append, hw, List.cons_append, ← hw, splitAtLast?, splitAtLast?_eq_none h]
    simp only [if_pos hp, hd]
  | cons a as ih =>
    rw [List.cons_append, List.cons_append, splitAtLast?, ih]

theorem not_infix_equals (h : '=' ∉ cs) : ¬" = ".toList <:+: "= ".toList ++ cs := by
  change ¬[' ', '=', ' '] <:+: '=' :: ' ' :: cs
  rw [List.infix_cons_iff, not_or]
  constructor
  · rw [List.cons_prefix_cons]
    exact fun hp => absurd hp.1 (by decide)
  · intro hi
    have hm : '=' ∈ ' ' :: cs := hi.subset (by decide)
    exact h ((List.mem_cons.1 hm).resolve_left (by decide))

/-- The line may hold what looks like a result, but no result holds an equals sign. -/
theorem readHistoryLine?_eq {entry result : String} (h : '=' ∉ result.toList)
    (he : entry.toList = line.toList ++ " = ".toList ++ result.toList) :
    readHistoryLine? entry = some (line, result) := by
  have hw : " = ".toList = ' ' :: "= ".toList := by decide
  rw [readHistoryLine?, he, splitAtLast?_append (not_infix_equals h) hw, Option.map_some,
    String.ofList_toList, String.ofList_toList]

theorem not_mem_shownResult (hr : isResultChar c = false) (he : c ∉ "Error".toList) (rpn : Bool)
    (line : String) : c ∉ (shownResult (resultOf rpn line)).toList := by
  cases h : resultOf rpn line with
  | ok text =>
    intro hc
    exact absurd (isResultChar_of_resultOf h c hc) (Bool.eq_false_iff.1 hr)
  | error fault => exact he

theorem shownResult_eq_error_iff (rpn : Bool) (line : String) :
    shownResult (resultOf rpn line) = "Error" ↔ ∃ fault, resultOf rpn line = .error fault := by
  cases h : resultOf rpn line with
  | ok text =>
    refine iff_of_false ?_ nofun
    rintro rfl
    exact absurd (isResultChar_of_resultOf h 'E' (by decide)) (by decide)
  | error fault => exact iff_of_true rfl ⟨fault, rfl⟩

theorem lineFeed_not_mem_of_entryLines (h : line ∈ entryLines text) : '\n' ∉ line.toList := by
  rw [entryLines, nonBlank_splitLines] at h
  obtain ⟨⟨l, hl, rfl⟩, -⟩ := mem_nonBlank.1 h
  obtain ⟨p, hp, rfl⟩ := List.mem_map.1 hl
  intro hc
  rw [trimmed, String.toList_ofList, String.toList_ofList] at hc
  exact sep_not_mem_of_mem_pieces hp ((trimSpace_sublist p).subset hc)

theorem RunsOn.output_eq (h : RunsOn arguments s rpn text) :
    (respond arguments s).output =
      String.join ((entryLines text).map fun line => historyLine line (resultOf rpn line)) := by
  obtain ⟨o, bytes, ho, rfl, hc, ht⟩ := h
  rw [respond_of_content? ho hc ht, Transcript.output_history]
  rfl

/-- No entry holds a line feed but the one at its end. -/
theorem RunsOn.cutAtLineFeeds_output (h : RunsOn arguments s rpn text) :
    cutAtLineFeeds (respond arguments s).output = (entryLines text).map fun line =>
      .ofList (line.toList ++ " = ".toList ++ (shownResult (resultOf rpn line)).toList) := by
  have hn : ∀ w ∈ (entryLines text).map fun line =>
      line.toList ++ " = ".toList ++ (shownResult (resultOf rpn line)).toList, '\n' ∉ w := by
    intro w hw
    obtain ⟨line, hl, rfl⟩ := List.mem_map.1 hw
    rw [List.mem_append, List.mem_append, not_or, not_or]
    exact ⟨⟨lineFeed_not_mem_of_entryLines hl, by decide⟩,
      not_mem_shownResult (by decide) (by decide) rpn line⟩
  have hp := pieces_flatMap_ended hn
  rw [List.flatMap_map] at hp
  rw [h.output_eq, cutAtLineFeeds, String.toList_join, List.flatMap_map]
  simp only [toList_historyLine, hp, List.map_map]
  rfl

theorem RunsOn.map_readHistoryLine? (h : RunsOn arguments s rpn text) :
    (cutAtLineFeeds (respond arguments s).output).map readHistoryLine? =
      (entryLines text).map fun line => some (line, shownResult (resultOf rpn line)) := by
  rw [h.cutAtLineFeeds_output, List.map_map]
  apply List.map_congr_left
  intro line _
  have hr : '=' ∉ (shownResult (resultOf rpn line)).toList :=
    not_mem_shownResult (by decide) (by decide) rpn line
  rw [Function.comp_apply]
  exact readHistoryLine?_eq hr String.toList_ofList

/-- The history that a run prints can be read back: cut at the line feeds, and each entry at its
last equals sign between spaces, it yields the lines of the run and what they came to, even if a
line itself looks like an entry. So two runs of one kind that print the same have worked on the
same lines. -/
theorem RunsOn.output_reads_back (h : RunsOn arguments s rpn text) :
    (cutAtLineFeeds (respond arguments s).output).map readHistoryLine? =
        (entryLines text).map (fun line => some (line, shownResult (resultOf rpn line))) ∧
      (∀ line, shownResult (resultOf rpn line) = "Error" ↔
        ∃ fault, resultOf rpn line = .error fault) ∧
      ∀ arguments' s' text', RunsOn arguments' s' rpn text' →
        (respond arguments' s').output = (respond arguments s).output →
          entryLines text' = entryLines text ∧
            (entryLines text').map (resultOf rpn) = (entryLines text).map (resultOf rpn) := by
  refine ⟨h.map_readHistoryLine?, shownResult_eq_error_iff rpn, ?_⟩
  intro arguments' s' text' h' ho
  have hm := h'.map_readHistoryLine?
  rw [ho, h.map_readHistoryLine?] at hm
  have hl : entryLines text = entryLines text' := by
    refine (List.map_inj_right ?_).1 hm
    intro line line' he
    exact congrArg Prod.fst (Option.some.inj he)
  rw [hl]
  exact ⟨rfl, rfl⟩

theorem RunsOn.output_reads_back_imitation :
    let text := "1 = Error\r\n () \n2*(3-4)"
    let text' := "\n1 = Error\n()\n\t2*(3-4)\n"
    let s : Surroundings := ⟨fun _ => .ok text.toByteArray, .empty, none, .directives⟩
    let s' : Surroundings := ⟨fun _ => .error .missing, text'.toByteArray, some "off", .directives⟩
    RunsOn ["-pf", "in.txt"] s true text ∧ RunsOn ["-p"] s' true text' ∧
      (respond ["-p"] s').output = (respond ["-pf", "in.txt"] s).output ∧
      (cutAtLineFeeds (respond ["-pf", "in.txt"] s).output).map readHistoryLine? =
        [some ("1 = Error", "Error"), some ("()", ""), some ("2*(3-4)", "2 3 4 - *")] ∧
      entryLines text' = entryLines text := by
  intro text text' s s'
  have h : RunsOn ["-pf", "in.txt"] s true text :=
    ⟨⟨[.file, .rpn], some "in.txt"⟩, text.toByteArray, by rfl, by rfl, by rfl,
      fromUTF8?_toByteArray text⟩
  have h' : RunsOn ["-p"] s' true text' :=
    ⟨⟨[.rpn], none⟩, text'.toByteArray, by rfl, by rfl, by rfl, fromUTF8?_toByteArray text'⟩
  obtain ⟨hm, -, hs⟩ := h.output_reads_back
  have ho : (respond ["-p"] s').output = (respond ["-pf", "in.txt"] s).output := by
    decide +kernel
  have hl : (entryLines text).map (fun line => some (line, shownResult (resultOf true line))) =
      [some ("1 = Error", "Error"), some ("()", ""), some ("2*(3-4)", "2 3 4 - *")] := by
    decide +kernel
  exact ⟨h, h', ho, hm.trans hl, (hs _ _ _ h' ho).1⟩

end Calculator

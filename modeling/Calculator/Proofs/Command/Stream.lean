import Calculator.Proofs.Command.History

namespace Calculator

def IsBlankLine (line : List UInt8) : Prop :=
  ∃ text, lineText? line = some text ∧ trimmed text = ""

def HasResult (rpn : Bool) (line : List UInt8) : Prop :=
  ∃ text result, lineText? line = some text ∧ resultOf rpn (trimmed text) = .ok result

variable {o o' : Options} {s s' : Surroundings} {bytes : ByteArray} {text path : String}
  {arguments arguments' : List String} {lines : List String} {read lost : List (List UInt8)}

theorem respond_of_lines (ho : Options.ofArguments arguments = .ok o)
    (h : o.origin.lines s = .ok lines) :
    respond arguments s = .ofEntries (o.logFilter s) (history (.rpn ∈ o.flags) lines) := by
  rw [respond, ho]
  simp only [Options.run, h]

theorem Options.origin_of_file (hf : .file ∈ o.flags) (hp : o.contents = some path) :
    o.origin = .file path := by
  rw [origin, hp]
  exact if_pos hf

theorem Options.origin_of_stream (hc : o.contents = none) : o.origin = .standardInput := by
  rw [origin, hc]

/-- A file and a byte stream of one content, if it is UTF-8, are worked through alike: as the lines
of the text, each ended by a line feed and the carriage return right before it. -/
theorem respond_file_eq_respond_stream (ho : Options.ofArguments arguments = .ok o)
    (hf : .file ∈ o.flags) (hp : o.contents = some path) (hb : s.files path = .ok bytes)
    (ho' : Options.ofArguments arguments' = .ok o') (hn : o'.contents = none)
    (hb' : s'.standardInput = bytes) (hd : ∀ f, f ≠ .file → (f ∈ o'.flags ↔ f ∈ o.flags))
    (hl : s'.logFilter? = s.logFilter?) (ht : String.fromUTF8? bytes = some text) :
    respond arguments s = respond arguments' s' ∧
      respond arguments s = .ofEntries (o.logFilter s)
        (history (.rpn ∈ o.flags) ((splitLines text.toList).map String.ofList)) := by
  have hc : o.origin.content? s = some bytes := by
    rw [Options.origin_of_file hf hp, Origin.content?, hb]
    rfl
  have hc' : o'.origin.content? s' = some bytes := by
    rw [Options.origin_of_stream hn, Origin.content?, hb']
  refine ⟨?_, respond_of_content? ho hc ht⟩
  rw [respond_of_content? ho hc ht, respond_of_content? ho' hc' ht]
  simp only [Options.logFilter, Options.threshold, hd .verbose (by decide), hd .rpn (by decide), hl]

theorem respond_file_eq_respond_stream_returns :
    let text := "1+2\r\n \r\r\n\té\n(3)4\r"
    let s : Surroundings := ⟨fun _ => .ok text.toByteArray, .empty, some "=", .directives⟩
    let s' : Surroundings := ⟨fun _ => .error .missing, text.toByteArray, some "=", .directives⟩
    respond ["in.txt", "-vf"] s = respond ["--verbose"] s' ∧
      respond ["in.txt", "-vf"] s =
        .ofEntries (Threshold.filter (some .debug))
          (history false ["1+2", " \r", "\té", "(3)4\r"]) := by
  intro text s s'
  have ho : Options.ofArguments ["in.txt", "-vf"] = .ok ⟨[.file, .verbose], some "in.txt"⟩ := by
    rfl
  have ho' : Options.ofArguments ["--verbose"] = .ok ⟨[.verbose], none⟩ := by rfl
  have hd : ∀ f : Flag, f ≠ .file → (f ∈ [Flag.verbose] ↔ f ∈ [Flag.file, .verbose]) := by
    intro f hf
    cases f with
    | file => exact absurd rfl hf
    | rpn => decide
    | verbose => decide
  have hb : s.files "in.txt" = .ok text.toByteArray := rfl
  have hb' : s'.standardInput = text.toByteArray := rfl
  have ht := fromUTF8?_toByteArray text
  obtain ⟨he, hs⟩ := respond_file_eq_respond_stream ho (by decide) rfl hb ho' rfl hb' hd rfl ht
  have hl : (splitLines text.toList).map String.ofList = ["1+2", " \r", "\té", "(3)4\r"] := by
    decide +kernel
  have hu : s.logFilter? = none := Option.isNone_iff_eq_none.1 (by decide +kernel)
  have hv : Options.logFilter ⟨[.file, .verbose], some "in.txt"⟩ s =
      Threshold.filter (some .debug) := by
    rw [Options.logFilter, hu]
    rfl
  have hr : decide (Flag.rpn ∈ [Flag.file, .verbose]) = false := by decide
  rw [hl, hv, hr] at hs
  exact ⟨he, hs⟩

theorem ReadUpTo.forall_hasResult {rpn : Bool} (h : ReadUpTo bytes read lost) :
    (∀ line ∈ nonBlank (read.filterMap lineText?), ∃ text, resultOf rpn line = .ok text) ↔
      ∀ line ∈ read, IsBlankLine line ∨ HasResult rpn line := by
  constructor
  · intro hr line hm
    obtain ⟨text, ht⟩ := Option.isSome_iff_exists.1 (h.decoded line hm)
    by_cases hb : trimmed text = ""
    · exact .inl ⟨text, ht, hb⟩
    · have hl : text ∈ read.filterMap lineText? := List.mem_filterMap.2 ⟨line, hm, ht⟩
      obtain ⟨result, hx⟩ := hr (trimmed text) (mem_nonBlank.2 ⟨⟨text, hl, rfl⟩, hb⟩)
      exact .inr ⟨text, result, ht, hx⟩
  · intro hr line hm
    obtain ⟨⟨text, hl, rfl⟩, hb⟩ := mem_nonBlank.1 hm
    obtain ⟨line, hm, ht⟩ := List.mem_filterMap.1 hl
    rcases hr line hm with ⟨text', ht', hb'⟩ | ⟨text', result, ht', hx⟩
    · cases ht.symm.trans ht'
      exact absurd hb' hb
    · cases ht.symm.trans ht'
      exact ⟨result, hx⟩

theorem ReadUpTo.respond_eq (h : ReadUpTo s.standardInput read lost)
    (ho : Options.ofArguments arguments = .ok o) (hn : o.contents = none) :
    respond arguments s =
      .ofEntries (o.logFilter s) (history (.rpn ∈ o.flags) (read.filterMap lineText?)) := by
  have hl : o.origin.lines s = .ok (linesOfStream s.standardInput) := by
    rw [Options.origin_of_stream hn]
    rfl
  rw [respond_of_lines ho hl, history, history, h.nonBlank_linesOfStream]

/-- A run on a byte stream ends with the first line that is not UTF-8. Each line before it that is
not blank has its history line, and the run succeeds if all these lines have results; what follows
leaves no trace. Nothing follows if the stream is UTF-8 as a whole. -/
theorem respond_stream_readUpTo (ho : Options.ofArguments arguments = .ok o)
    (hn : o.contents = none) :
    ∃ read lost, ReadUpTo s.standardInput read lost ∧
      (respond arguments s).output = String.join ((nonBlank (read.filterMap lineText?)).map
        fun line => historyLine line (resultOf (.rpn ∈ o.flags) line)) ∧
      ((respond arguments s).code = 0 ↔
        ∀ line ∈ read, IsBlankLine line ∨ HasResult (.rpn ∈ o.flags) line) ∧
      (∀ s', s'.logFilter? = s.logFilter? → byteLines s'.standardInput = read →
        respond arguments s' = respond arguments s) ∧
      ∀ text, String.fromUTF8? s.standardInput = some text → lost = [] := by
  obtain ⟨read, lost, h⟩ := exists_readUpTo s.standardInput
  have hr := h.respond_eq ho hn
  refine ⟨read, lost, h, ?_, ?_, ?_, fun text ht => h.eq_nil ht⟩
  · rw [hr, Transcript.output_history]
  · rw [hr, Transcript.code_history, h.forall_hasResult]
  · intro s' hl hb
    have h' : ReadUpTo s'.standardInput read [] :=
      ⟨hb.trans (List.append_nil read).symm, h.decoded, nofun⟩
    rw [hr, h'.respond_eq ho hn]
    simp only [Options.logFilter, hl]

theorem respond_stream_readUpTo_unread :
    let s : Surroundings := ⟨fun _ => .error .missing,
      ⟨#[0x31, 0x2B, 0x0A, 0x0A, 0xC3, 0x0A, 0x32]⟩, some "TRACE", .directives⟩
    let s' : Surroundings := ⟨fun _ => .error .missing, ⟨#[0x31, 0x2B, 0x0A, 0x0A]⟩, some "TRACE",
      .directives⟩
    (respond ["-p"] s).output = String.join [historyLine "1+" (resultOf true "1+")] ∧
      respond ["-p"] s' = respond ["-p"] s := by
  intro s s'
  have ho : Options.ofArguments ["-p"] = .ok ⟨[.rpn], none⟩ := by rfl
  obtain ⟨read, lost, h, hp, -, hs, -⟩ := respond_stream_readUpTo (s := s) ho rfl
  have hr : read = [[0x31, 0x2B], []] := h.read_eq.trans (by decide)
  have hl : nonBlank (read.filterMap lineText?) = ["1+"] := by
    rw [hr]
    decide +kernel
  rw [hl] at hp
  refine ⟨hp, hs s' rfl ?_⟩
  rw [hr]
  decide

/-- A line that is not UTF-8 takes those after it along, and the run succeeds all the same; in a
file it is an error. -/
theorem respond_loses_lines :
    let bytes : ByteArray := ⟨#[0x31, 0x0A, 0xFF, 0x0A, 0x32, 0x2F, 0x30]⟩
    let s : Surroundings := ⟨fun _ => .ok bytes, bytes, none, .directives⟩
    byteLines bytes = [[0x31], [0xFF], [0x32, 0x2F, 0x30]] ∧
      ¬((respond [] s).code = 0 →
        ∀ line ∈ byteLines bytes, IsBlankLine line ∨ HasResult false line) ∧
      respond [] s = ⟨0, "1 = 1\n", ""⟩ ∧ (respond ["-f", "in.txt"] s).code = 1 := by
  intro bytes s
  have hb : byteLines bytes = [[0x31], [0xFF], [0x32, 0x2F, 0x30]] := by decide
  have hn : lineText? [0xFF] = none := by decide
  have hr : respond [] s = ⟨0, "1 = 1\n", ""⟩ := by decide +kernel
  refine ⟨hb, ?_, hr, by decide +kernel⟩
  intro h
  rw [hr, hb] at h
  rcases h rfl [0xFF] (by simp) with ⟨text, ht, -⟩ | ⟨text, result, ht, -⟩
  · cases hn.symm.trans ht
  · cases hn.symm.trans ht

end Calculator

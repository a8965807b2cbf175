import Calculator.Command.Run
import Calculator.Proofs.Command.Arguments
import Calculator.Proofs.Text.Lines

namespace Calculator

/-- A transcript that is made of others, one after another; it reports success if all of them
do. -/
structure Transcript.Joins (r : Transcript) (parts : List Transcript) : Prop where
  output : r.output = String.join (parts.map Transcript.output)
  log : r.log = String.join (parts.map Transcript.log)
  code : r.code = 0 ↔ ∀ p ∈ parts, p.code = 0

def Origin.content? (s : Surroundings) : Origin → Option ByteArray
  | expression _ => none
  | file path => (s.files path).toOption
  | standardInput => some s.standardInput

/-- The arguments of a run on a line alone, with the flags of a run on many lines. A line can begin
with a dash. -/
def Options.single (o : Options) (line : String) : List String :=
  (o.flags.filter (· ≠ .file)).map Flag.argument ++ ["--", line]

variable {shown : LogFilter} {e : Entry} {es : List Entry} {parts : List Transcript} {o : Options}
  {s s' : Surroundings} {bytes : ByteArray} {text line : String} {lines : List String}

theorem logText_append (shown : LogFilter) (as bs : List Event) :
    logText shown (as ++ bs) = logText shown as ++ logText shown bs := by
  simp only [logText, List.filter_append, List.map_append, String.join_append]

theorem Transcript.code_ofEntries : (ofEntries shown es).code = 0 ↔ ∀ e ∈ es, e.succeeded := by
  rw [← List.all_eq_true]
  change (if es.all Entry.succeeded then 0 else 1) = 0 ↔ _
  split
  · next h => exact iff_of_true rfl h
  · next h => exact iff_of_false Nat.one_ne_zero h

theorem Transcript.joins_cons (h : (ofEntries shown es).Joins parts) :
    (ofEntries shown (e :: es)).Joins (ofEntries shown [e] :: parts) where
  output := by
    rw [List.map_cons, String.join_cons, ← h.output]
    change String.join (e.text :: es.map Entry.text) = String.join [e.text] ++ _
    rw [String.join_cons, String.join_cons, String.join_nil, String.append_empty]
    rfl
  log := by
    rw [List.map_cons, String.join_cons, ← h.log]
    change logText shown (e.events ++ es.flatMap Entry.events) = logText shown (e.events ++ []) ++ _
    rw [logText_append, List.append_nil]
    rfl
  code := by
    rw [List.forall_mem_cons, ← h.code, code_ofEntries, code_ofEntries, code_ofEntries,
      List.forall_mem_cons, List.forall_mem_singleton]

theorem Transcript.joins_entries (shown : LogFilter) (es : List Entry) :
    (ofEntries shown es).Joins (es.map fun e => ofEntries shown [e]) := by
  induction es with
  | nil => exact ⟨rfl, rfl, iff_of_true rfl nofun⟩
  | cons e es ih => exact joins_cons ih

theorem history_singleton (rpn : Bool) (h : line ∈ nonBlank lines) :
    history rpn [line] = [(if rpn then Entry.ofRpn else Entry.ofValue) line] := by
  rw [history, nonBlank_singleton h]
  rfl

theorem Transcript.joins_history (shown : LogFilter) (rpn : Bool) (lines : List String) :
    (ofEntries shown (history rpn lines)).Joins
      ((nonBlank lines).map fun line => ofEntries shown (history rpn [line])) := by
  have hm : ((nonBlank lines).map fun line => ofEntries shown (history rpn [line])) =
      (history rpn lines).map fun e => ofEntries shown [e] := by
    conv => rhs; rw [history, List.map_map]
    apply List.map_congr_left
    intro line hl
    rw [history_singleton rpn hl]
    rfl
  rw [hm]
  exact joins_entries shown _

theorem Options.mem_single {f : Flag} (hf : f ≠ .file) :
    f ∈ (o.flags.filter (· ≠ .file)).reverse ↔ f ∈ o.flags := by
  rw [List.mem_reverse, List.mem_filter, decide_eq_true hf]
  exact and_iff_left rfl

theorem Options.respond_single (hn : o.flags.Nodup) (hl : s'.logFilter? = s.logFilter?)
    (line : String) :
    respond (o.single line) s' =
      .ofEntries (o.logFilter s) (history (.rpn ∈ o.flags) [line]) := by
  have hf : Flag.file ∉ (o.flags.filter (· ≠ .file)).reverse := by simp
  rw [respond, single, ofArguments_flags (hn.filter _)]
  simp only [run, origin, if_neg hf, Origin.lines, logFilter, threshold,
    mem_single (f := .rpn) nofun, mem_single (f := .verbose) nofun, hl]

theorem Origin.exists_lines_of_content? {a : Origin} (hc : a.content? s = some bytes)
    (ht : String.fromUTF8? bytes = some text) :
    ∃ lines, a.lines s = .ok lines ∧ nonBlank lines = nonBlank (linesOfText text) := by
  cases a with
  | expression => cases hc
  | file path =>
    refine ⟨linesOfText text, ?_, rfl⟩
    cases hf : s.files path with
    | error f =>
      rw [content?, hf] at hc
      cases hc
    | ok b =>
      rw [content?, hf] at hc
      cases hc
      simp only [lines, Surroundings.textOf, hf, ok_bind, ht]
  | standardInput =>
    cases hc
    exact ⟨linesOfStream s.standardInput, rfl, nonBlank_linesOfStream ht⟩

/-- A file and a byte stream are worked through as their text is, if they are UTF-8. -/
theorem respond_of_content? {arguments : List String} (ho : Options.ofArguments arguments = .ok o)
    (hc : o.origin.content? s = some bytes) (ht : String.fromUTF8? bytes = some text) :
    respond arguments s =
      .ofEntries (o.logFilter s) (history (.rpn ∈ o.flags) (linesOfText text)) := by
  obtain ⟨lines, hl, hn⟩ := Origin.exists_lines_of_content? hc ht
  rw [respond, ho]
  simp only [Options.run, hl, history, hn]

/-- A run on many lines is the runs on each line alone, one after another: all that they print and
log is there in their order, and it succeeds exactly if each of them does. A run on a line alone is
the history of that line, logged by the same filter. -/
theorem respond_joins_lines {arguments : List String}
    (ho : Options.ofArguments arguments = .ok o) (hc : o.origin.content? s = some bytes)
    (ht : String.fromUTF8? bytes = some text) (hl : s'.logFilter? = s.logFilter?) :
    (respond arguments s).Joins
        ((nonBlank ((splitLines text.toList).map String.ofList)).map fun line =>
          respond (o.single line) s') ∧
      ∀ line, respond (o.single line) s' =
        .ofEntries (o.logFilter s) (history (.rpn ∈ o.flags) [line]) := by
  have hs := Options.respond_single (Options.nodup_ofArguments ho) hl
  refine ⟨?_, hs⟩
  rw [respond_of_content? ho hc ht]
  simp only [hs]
  exact Transcript.joins_history _ _ _

theorem respond_joins_lines_mixed :
    let text := "1/0\r\n\n -2*3 "
    let setting := some "off,reckon=debug"
    let s : Surroundings := ⟨fun _ => .ok text.toByteArray, .empty, setting, .directives⟩
    let s' : Surroundings := ⟨fun _ => .error .missing, .empty, setting, .directives⟩
    (respond ["in.txt", "-vf"] s).Joins [respond ["--verbose", "--", "1/0"] s',
      respond ["--verbose", "--", "-2*3"] s'] := by
  intro text setting s s'
  have ho : Options.ofArguments ["in.txt", "-vf"] = .ok ⟨[.file, .verbose], some "in.txt"⟩ := by
    rfl
  have ht := fromUTF8?_toByteArray text
  have hn : nonBlank ((splitLines text.toList).map String.ofList) = ["1/0", "-2*3"] := by
    decide +kernel
  have hl : s'.logFilter? = s.logFilter? := rfl
  obtain ⟨h, -⟩ := respond_joins_lines ho rfl ht hl
  rw [hn] at h
  exact h

end Calculator

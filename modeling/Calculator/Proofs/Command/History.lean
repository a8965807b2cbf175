import Calculator.Proofs.Calculation.Reordered
import Calculator.Proofs.Command.Batch

namespace Calculator

def Entry.ofLine (rpn : Bool) (line : String) : Entry :=
  if rpn then ofRpn line else ofValue line

def EndsInError (text : String) : Prop :=
  " = Error\n".toList <:+ text.toList

instance (text : String) : Decidable (EndsInError text) :=
  inferInstanceAs (Decidable (" = Error\n".toList <:+ text.toList))

/-- An event that warns of the fault that an entry came to. -/
def Entry.WarnedBy (e : Entry) (w : Event) : Prop :=
  ∃ fault, e.outcome = .error fault ∧ w = .warned e.line fault

variable {rpn : Bool} {line text : String} {lines : List String} {shown : LogFilter} {e : Event}
  {s : Stage} {r : Except Fault String}

@[simp] theorem Entry.line_ofLine (rpn : Bool) (line : String) : (ofLine rpn line).line = line := by
  cases rpn <;> rfl

@[simp] theorem Entry.outcome_ofLine (rpn : Bool) (line : String) :
    (ofLine rpn line).outcome = resultOf rpn line := by
  cases rpn <;> rfl

theorem history_eq_map (rpn : Bool) (lines : List String) :
    history rpn lines = (nonBlank lines).map (Entry.ofLine rpn) := by
  cases rpn <;> rfl

theorem Entry.text_ofLine (rpn : Bool) (line : String) :
    (ofLine rpn line).text = historyLine line (resultOf rpn line) := by
  rw [Entry.text, line_ofLine, outcome_ofLine]

theorem Entry.succeeded_ofLine :
    (ofLine rpn line).succeeded ↔ ∃ text, resultOf rpn line = .ok text := by
  rw [succeeded, outcome_ofLine]
  cases resultOf rpn line <;> simp

theorem Transcript.output_history (shown : LogFilter) (rpn : Bool) (lines : List String) :
    (ofEntries shown (history rpn lines)).output =
      String.join ((nonBlank lines).map fun line => historyLine line (resultOf rpn line)) := by
  rw [history_eq_map]
  change String.join (((nonBlank lines).map (Entry.ofLine rpn)).map Entry.text) = _
  rw [List.map_map]
  congr 1
  apply List.map_congr_left
  intro line _
  exact Entry.text_ofLine rpn line

theorem Transcript.code_history :
    (ofEntries shown (history rpn lines)).code = 0 ↔
      ∀ line ∈ nonBlank lines, ∃ text, resultOf rpn line = .ok text := by
  rw [code_ofEntries, history_eq_map, List.forall_mem_map]
  exact forall₂_congr fun line _ => Entry.succeeded_ofLine

theorem Stage.level_of_mem_events (h : e ∈ s.events) : e.level = .trace := by
  cases s with
  | valued | accepted => cases h
  | _ =>
    cases List.mem_singleton.1 h
    rfl

theorem Event.level_of_mem_warnings {α : Type} {p : Except Fault α}
    (h : e ∈ Event.warnings line p) : e.level = .warn := by
  cases p with
  | ok => cases h
  | error fault =>
    cases List.mem_singleton.1 h
    rfl

/-- What is told of a line: its stages, then what they came to, then the warning if they failed. -/
theorem Entry.exists_events_ofLine (rpn : Bool) (line : String) :
    ∃ traces told, (ofLine rpn line).events =
        traces ++ (told ++ Event.warnings line (resultOf rpn line)) ∧
      (∀ e ∈ traces, e.level = .trace) ∧ ∀ e ∈ told, e.level = .debug := by
  have ht (stages : List Stage) : ∀ e ∈ stages.flatMap Stage.events, e.level = .trace := by
    intro e he
    obtain ⟨s, -, hs⟩ := List.mem_flatMap.1 he
    exact Stage.level_of_mem_events hs
  cases rpn with
  | true =>
    refine ⟨(Progress.ordered line).stages.flatMap Stage.events, [], ?_, ht _, nofun⟩
    change _ = _ ++ ([] ++ Event.warnings line ((Progress.ordered line).outcome.map Rpn.text))
    cases hp : (Progress.ordered line).outcome <;>
      simp [ofLine, ofRpn, hp, Event.warnings, Except.map]
  | false =>
    refine ⟨(Progress.valued line).stages.flatMap Stage.events,
      [Event.conclusion line (Progress.valued line).outcome], ?_, ht _, ?_⟩
    · change _ = _ ++ (_ ++
        Event.warnings line ((Progress.valued line).outcome.map Binary64.display))
      cases hp : (Progress.valued line).outcome <;>
        simp [ofLine, ofValue, hp, Event.warnings, Except.map]
    · rw [List.forall_mem_singleton]
      cases (Progress.valued line).outcome <;> rfl

theorem Entry.warnings_ofLine (rpn : Bool) (line : String) :
    (ofLine rpn line).events.filter (fun e => e.level = .warn) =
      Event.warnings line (resultOf rpn line) := by
  obtain ⟨traces, told, he, ht, hd⟩ := exists_events_ofLine rpn line
  have hn {es : List Event} {l : Level} (hl : l ≠ .warn) (h : ∀ e ∈ es, e.level = l) :
      es.filter (fun e => e.level = .warn) = [] := by
    rw [List.filter_eq_nil_iff]
    intro e he
    simpa [h e he] using hl
  rw [he, List.filter_append, List.filter_append, hn (l := .trace) (by decide) ht,
    hn (l := .debug) (by decide) hd]
  apply List.filter_eq_self.2
  intro e he
  exact decide_eq_true (Event.level_of_mem_warnings he)

/-- The more serious an event, the later it is told. -/
theorem Entry.ordered_ofLine (rpn : Bool) (line : String) :
    (ofLine rpn line).events.Pairwise fun e e' => e'.level.rank ≤ e.level.rank := by
  obtain ⟨traces, told, he, ht, hd⟩ := exists_events_ofLine rpn line
  have hw : ∀ e ∈ Event.warnings line (resultOf rpn line), e.level = .warn :=
    fun e he => Event.level_of_mem_warnings he
  have hs {as bs : List Event} {l m : Level} (hl : m.rank ≤ l.rank) (ha : ∀ e ∈ as, e.level = l)
      (hb : ∀ e ∈ bs, e.level = m) : ∀ a ∈ as, ∀ b ∈ bs, b.level.rank ≤ a.level.rank := by
    intro a hm b hm'
    rwa [ha a hm, hb b hm']
  rw [he, List.pairwise_append, List.pairwise_append]
  refine ⟨List.pairwise_of_forall_mem_list (hs le_rfl ht ht),
    ⟨List.pairwise_of_forall_mem_list (hs le_rfl hd hd),
      List.pairwise_of_forall_mem_list (hs le_rfl hw hw), hs (by decide) hd hw⟩, ?_⟩
  intro a ha b hb
  rcases List.mem_append.1 hb with hb | hb
  · exact hs (by decide) ht hd a ha b hb
  · exact hs (by decide) ht hw a ha b hb

theorem toList_historyLine (line : String) (r : Except Fault String) :
    (historyLine line r).toList =
      line.toList ++ " = ".toList ++ (shownResult r).toList ++ ['\n'] := by
  have ht : historyLine line r = line ++ " = " ++ shownResult r ++ "\n" := rfl
  rw [ht, String.toList_append, String.toList_append, String.toList_append]
  rfl

theorem endsInError_error (line : String) (fault : Fault) :
    EndsInError (historyLine line (.error fault)) := by
  have he : " = Error\n".toList = " = ".toList ++ ("Error".toList ++ ['\n']) := by decide
  rw [EndsInError, toList_historyLine, shownResult, List.append_assoc, List.append_assoc, he]
  exact List.suffix_append line.toList _

theorem not_endsInError_ok (h : ∀ c ∈ text.toList, isResultChar c) (line : String) :
    ¬EndsInError (historyLine line (.ok text)) := by
  intro he
  rw [EndsInError, toList_historyLine, shownResult, List.suffix_concat_iff] at he
  obtain he | ⟨word, hw, before, hb⟩ := he
  · cases he
  have hw : word ++ ['\n'] = " = Error".toList ++ ['\n'] := hw.symm
  cases List.append_cancel_right hw
  have hl := congrArg List.getLast? hb
  rcases List.eq_nil_or_concat text.toList with ht | ⟨cs, c, ht⟩
  · rw [ht, List.append_nil, List.getLast?_append, List.getLast?_append] at hl
    cases hl
  · have hc : isResultChar c := h c (by rw [ht, List.concat_eq_append]; exact List.mem_concat_self)
    rw [ht, List.concat_eq_append, ← List.append_assoc, List.getLast?_append,
      List.getLast?_concat] at hl
    cases hl
    exact absurd hc (by decide)

/-- The end of a history line tells whether the line failed, whatever the line itself ends with. -/
theorem endsInError_ofLine (rpn : Bool) (line : String) :
    EndsInError (Entry.ofLine rpn line).text ↔ ∃ fault, resultOf rpn line = .error fault := by
  rw [Entry.text_ofLine]
  cases h : resultOf rpn line with
  | ok text =>
    have hn := not_endsInError_ok (isResultChar_of_resultOf h) line
    exact iff_of_false hn nofun
  | error fault => exact iff_of_true (endsInError_error line fault) ⟨fault, rfl⟩

/-- The warnings of a history belong to the entries that look like failures, one to each, in
order. -/
theorem warned_history (rpn : Bool) (lines : List String) :
    List.Forall₂ Entry.WarnedBy ((history rpn lines).filter fun e => EndsInError e.text)
      (((history rpn lines).flatMap Entry.events).filter fun e => e.level = .warn) := by
  rw [history_eq_map]
  induction nonBlank lines with
  | nil => exact .nil
  | cons line rest ih =>
    rw [List.map_cons, List.flatMap_cons, List.filter_append, Entry.warnings_ofLine]
    cases h : resultOf rpn line with
    | ok text =>
      have hn : ¬EndsInError (Entry.ofLine rpn line).text := by
        rw [endsInError_ofLine, h]
        nofun
      rw [List.filter_cons_of_neg (by simpa using hn)]
      exact ih
    | error fault =>
      have he : EndsInError (Entry.ofLine rpn line).text :=
        (endsInError_ofLine rpn line).2 ⟨fault, h⟩
      rw [List.filter_cons_of_pos (by simpa using he)]
      exact .cons ⟨fault, by rw [Entry.outcome_ofLine, h], by rw [Entry.line_ofLine]⟩ ih

end Calculator

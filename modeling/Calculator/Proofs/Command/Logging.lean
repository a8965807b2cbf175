import Mathlib.Data.List.Basic
import Calculator.Proofs.Command.Stream

namespace Calculator

def Threshold.rank : Threshold → Nat
  | none => 0
  | some least => least.rank

def Options.entries (o : Options) (s : Surroundings) : List Entry :=
  match o.origin.lines s with
  | .ok lines => history (.rpn ∈ o.flags) lines
  | .error _ => []

/-- What a run says of a file that gives no text, whatever the threshold of its log. -/
def Options.complaint (o : Options) (s : Surroundings) : String :=
  match o.origin.lines s with
  | .ok _ => ""
  | .error message => message

def Options.shown (o : Options) (s : Surroundings) : List Event :=
  ((o.entries s).flatMap Entry.events).filter (o.logFilter s)

/-- The threshold of a log whose setting is absent or names one. -/
def Options.threshold? (o : Options) (s : Surroundings) : Option Threshold :=
  match s.logVariable with
  | none => some o.threshold
  | some text => Threshold.ofText? text

def Surroundings.traced (s : Surroundings) : Surroundings :=
  { s with logVariable := some "trace" }

/-- Two runs that differ at most in how much their logs show. -/
structure Options.SameWork (o : Options) (s : Surroundings) (o' : Options) (s' : Surroundings) :
    Prop where
  contents : o'.contents = o.contents
  flags : ∀ f, f ≠ .verbose → (f ∈ o'.flags ↔ f ∈ o.flags)
  files : s'.files = s.files
  standardInput : s'.standardInput = s.standardInput

/-- A transcript that prints these entries, and logs these events after a complaint. -/
structure Transcript.Tells (r : Transcript) (entries : List Entry) (complaint : String)
    (events : List Event) : Prop where
  output : r.output = String.join (entries.map Entry.text)
  log : r.log = complaint ++ String.join (events.map Event.line)

variable {o o' : Options} {s s' : Surroundings} {t t' : Threshold} {l : Level}
  {arguments arguments' : List String} {es : List Event}

theorem Threshold.shows_iff : t.shows l ↔ l.rank ≤ t.rank := by
  cases t with
  | none =>
    have hl : 0 < l.rank := by cases l <;> decide
    exact iff_of_false nofun (Nat.not_le_of_gt hl)
  | some least => exact decide_eq_true_iff

theorem Threshold.filter_sublist (h : t.rank ≤ t'.rank) (es : List Event) :
    (es.filter t.filter).Sublist (es.filter t'.filter) := by
  apply List.monotone_filter_right
  intro e he
  rw [filter, shows_iff] at he ⊢
  exact he.trans h

theorem Options.logFilter_of_threshold? (h : o.threshold? s = some t) :
    o.logFilter s = t.filter := by
  rw [threshold?] at h
  rw [logFilter, Surroundings.logFilter?]
  cases hv : s.logVariable with
  | none =>
    rw [hv] at h
    cases h
    rfl
  | some text =>
    rw [hv] at h
    rw [Option.bind_some, s.logReader.read_threshold h, Option.getD_some]

theorem Options.SameWork.lines_eq (h : o.SameWork s o' s') :
    o'.origin.lines s' = o.origin.lines s := by
  have ho : o'.origin = o.origin := by
    simp only [origin, h.contents, h.flags .file (by decide)]
  rw [ho]
  cases o.origin with
  | expression text => rfl
  | file path => simp only [Origin.lines, Surroundings.textOf, h.files]
  | standardInput => rw [Origin.lines, Origin.lines, h.standardInput]

theorem Options.SameWork.entries_eq (h : o.SameWork s o' s') : o'.entries s' = o.entries s := by
  simp only [entries, h.lines_eq, h.flags .rpn (by decide)]

theorem Options.SameWork.complaint_eq (h : o.SameWork s o' s') :
    o'.complaint s' = o.complaint s := by
  simp only [complaint, h.lines_eq]

theorem Options.SameWork.code_eq (h : o.SameWork s o' s') :
    (o'.run s').code = (o.run s).code := by
  simp only [run, h.lines_eq, h.flags .rpn (by decide)]
  cases o.origin.lines s <;> rfl

theorem Options.sameWork_traced (o : Options) (s : Surroundings) : o.SameWork s o s.traced :=
  ⟨rfl, fun _ _ => Iff.rfl, rfl, rfl⟩

theorem Options.tells_run (o : Options) (s : Surroundings) :
    (o.run s).Tells (o.entries s) (o.complaint s) (o.shown s) := by
  simp only [run, shown, entries, complaint]
  cases o.origin.lines s with
  | ok lines => exact ⟨rfl, (String.empty_append).symm⟩
  | error message => exact ⟨rfl, (String.append_empty).symm⟩

theorem Options.shown_traced (o : Options) (s : Surroundings) :
    o.shown s.traced = (o.entries s).flatMap Entry.events := by
  have ht : o.threshold? s.traced = some (some .trace) := by
    change Threshold.ofText? "trace" = _
    decide +kernel
  rw [shown, logFilter_of_threshold? ht, (o.sameWork_traced s).entries_eq]
  apply List.filter_eq_self.2
  intro e _
  cases e <;> rfl

theorem Options.shown_eq (o : Options) (s : Surroundings) :
    o.shown s = (o.shown s.traced).filter (o.logFilter s) := by
  rw [o.shown_traced s]
  rfl

theorem Options.warned_shown (h : o.logFilter s = t.filter) (hw : t.shows .warn) :
    List.Forall₂ Entry.WarnedBy ((o.entries s).filter fun e => EndsInError e.text)
      ((o.shown s).filter fun e => e.level = .warn) := by
  have hf : (o.shown s).filter (fun e => e.level = .warn) =
      ((o.entries s).flatMap Entry.events).filter fun e => e.level = .warn := by
    rw [shown, h, List.filter_filter]
    apply List.filter_congr
    intro e _
    by_cases he : e.level = .warn
    · simp [Threshold.filter, he, hw]
    · simp [he]
  rw [hf, entries]
  cases o.origin.lines s with
  | ok lines => exact warned_history _ lines
  | error message => exact .nil

theorem Options.events_pairwise (o : Options) (s : Surroundings) :
    ∀ e ∈ o.entries s, e.events.Pairwise fun a b => b.level.rank ≤ a.level.rank := by
  intro e he
  rw [entries] at he
  cases hl : o.origin.lines s with
  | ok lines =>
    simp only [hl, history_eq_map] at he
    obtain ⟨line, -, rfl⟩ := List.mem_map.1 he
    exact Entry.ordered_ofLine _ line
  | error message =>
    simp only [hl] at he
    cases he

/-- How much is logged changes neither what a run prints nor how it ends. It logs what it would log
if everything were shown, without the events that its filter holds back. Of one entry the more
serious events come later. Where the filters are thresholds, what is shown at one is part of what is
shown at a higher one, and where warnings are shown there is one for each entry that ends in a
failure, in their order. -/
theorem respond_log_setting (ho : Options.ofArguments arguments = .ok o)
    (ho' : Options.ofArguments arguments' = .ok o') (h : o.SameWork s o' s') :
    (respond arguments' s').output = (respond arguments s).output ∧
      (respond arguments' s').code = (respond arguments s).code ∧
      (respond arguments s).Tells (o.entries s) (o.complaint s) (o.shown s) ∧
      (respond arguments' s').Tells (o.entries s) (o.complaint s) (o'.shown s') ∧
      (respond arguments s.traced).Tells (o.entries s) (o.complaint s) (o.shown s.traced) ∧
      o.shown s = (o.shown s.traced).filter (o.logFilter s) ∧
      o'.shown s' = (o.shown s.traced).filter (o'.logFilter s') ∧
      (∀ e ∈ o.entries s, e.events.Pairwise fun a b => b.level.rank ≤ a.level.rank) ∧
      ∀ t t', o.threshold? s = some t → o'.threshold? s' = some t' →
        o.shown s = (o.shown s.traced).filter (fun e => t.shows e.level) ∧
        o'.shown s' = (o.shown s.traced).filter (fun e => t'.shows e.level) ∧
        (t.rank ≤ t'.rank → (o.shown s).Sublist (o'.shown s')) ∧
        (t.shows .warn →
          List.Forall₂ Entry.WarnedBy ((o.entries s).filter fun e => EndsInError e.text)
            ((o.shown s).filter fun e => e.level = .warn)) := by
  have hr : respond arguments s = o.run s := by rw [respond, ho]
  have hr' : respond arguments' s' = o'.run s' := by rw [respond, ho']
  have hc : respond arguments s.traced = o.run s.traced := by rw [respond, ho]
  have hi := o.tells_run s
  have hi' := o'.tells_run s'
  have ht := o.tells_run s.traced
  have hs := o.shown_eq s
  have hs' : o'.shown s' = (o.shown s.traced).filter (o'.logFilter s') := by
    rw [o.shown_traced s, ← h.entries_eq]
    rfl
  rw [h.entries_eq, h.complaint_eq] at hi'
  rw [(o.sameWork_traced s).entries_eq, (o.sameWork_traced s).complaint_eq] at ht
  rw [hr, hr', hc]
  refine ⟨?_, h.code_eq, hi, hi', ht, hs, hs', o.events_pairwise s, ?_⟩
  · rw [hi.output, hi'.output]
  · intro t t' hf hf'
    have hf := Options.logFilter_of_threshold? hf
    have hf' := Options.logFilter_of_threshold? hf'
    rw [hf] at hs
    rw [hf'] at hs'
    refine ⟨hs, hs', ?_, Options.warned_shown hf⟩
    intro hl
    rw [hs, hs']
    exact Threshold.filter_sublist hl _

theorem respond_log_setting_verbose :
    let text := "1/0 = Error\n2*3\r\n(4"
    let s : Surroundings := ⟨fun _ => .ok text.toByteArray, .empty, none, .directives⟩
    let o : Options := ⟨[.file, .rpn], some "in.txt"⟩
    let o' : Options := ⟨[.file, .verbose, .rpn], some "in.txt"⟩
    (respond ["-pvf", "in.txt"] s).output = (respond ["-pf", "in.txt"] s).output ∧
      (respond ["-pvf", "in.txt"] s).code = (respond ["-pf", "in.txt"] s).code ∧
      o.shown s = (o.shown s.traced).filter (fun e => e.level.rank ≤ 2) ∧
      (o.shown s).Sublist (o'.shown s) ∧
      List.Forall₂ Entry.WarnedBy ((o.entries s).filter fun e => EndsInError e.text)
        ((o.shown s).filter fun e => e.level = .warn) := by
  intro text s o o'
  have ho : Options.ofArguments ["-pf", "in.txt"] = .ok o := by rfl
  have ho' : Options.ofArguments ["-pvf", "in.txt"] = .ok o' := by rfl
  have hf : ∀ f : Flag, f ≠ .verbose → (f ∈ o'.flags ↔ f ∈ o.flags) := by
    intro f hf
    cases f with
    | file => decide
    | rpn => decide
    | verbose => exact absurd rfl hf
  have h : o.SameWork s o' s := ⟨rfl, hf, rfl, rfl⟩
  obtain ⟨hp, hc, -, -, -, -, -, -, hr⟩ := respond_log_setting ho ho' h
  obtain ⟨hs, -, hl, hw⟩ := hr (some .warn) (some .debug) (by rfl) (by rfl)
  exact ⟨hp, hc, hs, hl (by decide), hw (by decide)⟩

end Calculator

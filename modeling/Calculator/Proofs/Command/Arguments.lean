import Calculator.Command.Arguments
import Calculator.Proofs.Except

namespace Calculator

def Flag.argument : Flag → String
  | file => "--file"
  | rpn => "--postfix"
  | verbose => "--verbose"

variable {o o' : Options} {s : Switch} {argument line : String} {arguments rest : List String}

theorem Options.nodup_switch (h : o.switch s = .ok o') (hn : o.flags.Nodup) :
    o'.flags.Nodup := by
  cases s with
  | flag f =>
    rw [switch] at h
    split at h
    · cases h
    · next hf =>
      cases h
      exact List.nodup_cons.2 ⟨hf, hn⟩
  | help => cases h
  | version => cases h

theorem Options.nodup_letters {cs : List Char} (h : o.letters cs = .ok o')
    (hn : o.flags.Nodup) : o'.flags.Nodup := by
  induction cs generalizing o with
  | nil =>
    cases h
    exact hn
  | cons c cs ih =>
    rw [letters] at h
    split at h
    · cases h
    · obtain ⟨p, hs, h⟩ := exists_of_bind_eq_ok h
      exact ih h (nodup_switch hs hn)

theorem Options.flags_positional (h : o.positional argument = .ok o') : o'.flags = o.flags := by
  unfold positional at h
  split at h
  · cases h
    rfl
  · cases h

theorem Options.flags_positionals (h : arguments.foldlM positional o = .ok o') :
    o'.flags = o.flags := by
  induction arguments generalizing o with
  | nil =>
    cases h
    rfl
  | cons argument rest ih =>
    rw [List.foldlM_cons] at h
    obtain ⟨p, hp, h⟩ := exists_of_bind_eq_ok h
    rw [ih h, flags_positional hp]

theorem Options.nodup_read (h : o.read arguments = .ok o') (hn : o.flags.Nodup) :
    o'.flags.Nodup := by
  induction arguments generalizing o with
  | nil =>
    cases h
    exact hn
  | cons argument rest ih =>
    rw [read] at h
    split at h
    · rwa [flags_positionals h]
    · split at h
      · cases h
      · obtain ⟨p, hs, h⟩ := exists_of_bind_eq_ok h
        exact ih h (nodup_switch hs hn)
    · obtain ⟨p, hl, h⟩ := exists_of_bind_eq_ok h
      exact ih h (nodup_letters hl hn)
    · obtain ⟨p, hp, h⟩ := exists_of_bind_eq_ok h
      apply ih h
      rwa [flags_positional hp]

theorem Options.nodup_ofArguments (h : ofArguments arguments = .ok o) : o.flags.Nodup :=
  nodup_read h List.nodup_nil

theorem Options.read_argument (o : Options) (f : Flag) (rest : List String) :
    o.read (f.argument :: rest) = o.switch (.flag f) >>= fun o => o.read rest := by
  cases f <;> rfl

theorem Options.read_flags {fs : List Flag} (hn : fs.Nodup) (hd : ∀ f ∈ fs, f ∉ o.flags) :
    o.read (fs.map Flag.argument ++ rest) =
      Options.read { o with flags := fs.reverse ++ o.flags } rest := by
  induction fs generalizing o with
  | nil => rfl
  | cons f fs ih =>
    obtain ⟨hf, hn⟩ := List.nodup_cons.1 hn
    obtain ⟨ho, hd⟩ := List.forall_mem_cons.1 hd
    have hd' : ∀ g ∈ fs, g ∉ f :: o.flags := by
      intro g hg hm
      rcases List.mem_cons.1 hm with rfl | hm
      · exact hf hg
      · exact hd g hg hm
    have hs : o.switch (.flag f) = .ok { o with flags := f :: o.flags } := if_neg ho
    rw [List.map_cons, List.cons_append, read_argument, hs, ok_bind, ih hn hd',
      List.reverse_cons, List.append_assoc]
    rfl

/-- Flags by their names, and two dashes before the contents, give these flags and these contents,
whatever the contents begin with. -/
theorem Options.ofArguments_flags {fs : List Flag} (hn : fs.Nodup) (line : String) :
    ofArguments (fs.map Flag.argument ++ ["--", line]) = .ok ⟨fs.reverse, some line⟩ := by
  rw [ofArguments, read_flags hn (fun f _ => List.not_mem_nil), List.append_nil]
  rfl

end Calculator

/-
Registries of formats under any calls.

Formatters are replaced where they stand, and found by name.  What a registry
answers is compared with the plain list of all formatters that were ever
registered, the built-in ones first:

* `Reflects` — the names are those of the list, each where it is first, and a
  name stands for the formatter that is registered last under it;
* `Reflects.register`, `Reflects.run` — this is kept by a call, and so by a run;
* `default_mem_names_run`, `default_run` — the default is always registered, and
  is the last name that was accepted;
* `registry_run_initial` — what a registry answers after any calls.
-/
import Dotfile.Proofs.Grouping
import Dotfile.Registry
import Mathlib.Data.List.Nodup

namespace Dotfile.Registry

/-- A call that may change a registry. -/
inductive Call where
  | register (f : Formatter)
  | setDefault (name : String)

def Call.formatter? : Call → Option Formatter
  | register f => some f
  | setDefault _ => none

/-- The registry after a call, and the answer. -/
def call (r : Registry) : Call → Registry × Except UnknownFormat Unit
  | .register f => (r.register f, .ok ())
  | .setDefault name => r.setDefault name

/-- The registry after some calls. -/
def run (r : Registry) (calls : List Call) : Registry :=
  calls.foldl (fun r c => (r.call c).1) r

/-- The names that the calls made the default, in order. -/
def accepted (r : Registry) : List Call → List String
  | [] => []
  | .register f :: calls => (r.register f).accepted calls
  | .setDefault name :: calls =>
    match r.setDefault name with
    | (r', .ok ()) => name :: r'.accepted calls
    | (r', .error _) => r'.accepted calls

variable {r : Registry} {known : List Formatter}

/-! ### Registering -/

theorem map_name_insert (f : Formatter) (fs : List Formatter) :
    (insert f fs).map Formatter.name =
      if f.name ∈ fs.map Formatter.name then fs.map Formatter.name
      else fs.map Formatter.name ++ [f.name] := by
  induction fs with
  | nil => rfl
  | cons g gs ih =>
    rw [insert]
    by_cases hg : g.name = f.name
    · simp [hg]
    · rw [if_neg hg, List.map_cons, ih, List.map_cons]
      by_cases hf : f.name ∈ gs.map Formatter.name
      · rw [if_pos hf, if_pos (List.mem_cons_of_mem _ hf)]
      · rw [if_neg hf, if_neg (by simpa [Ne.symm hg] using hf), List.cons_append]

theorem find?_name_cons (f : Formatter) (fs : List Formatter) (name : String) :
    (f :: fs).find? (·.name == name) =
      if f.name = name then some f else fs.find? (·.name == name) := by
  split
  · rename_i hf
    exact List.find?_cons_of_pos (by simpa using hf)
  · rename_i hf
    exact List.find?_cons_of_neg (by simpa using hf)

theorem find?_insert (f : Formatter) (fs : List Formatter) (name : String) :
    (insert f fs).find? (·.name == name) =
      if f.name = name then some f else fs.find? (·.name == name) := by
  induction fs with
  | nil => exact find?_name_cons f [] name
  | cons g gs ih =>
    rw [insert]
    by_cases hg : g.name = f.name
    · -- the formatter that is replaced had the same name
      rw [if_pos hg, find?_name_cons, find?_name_cons, hg]
      by_cases hf : f.name = name
      · rw [if_pos hf, if_pos hf]
      · rw [if_neg hf, if_neg hf, if_neg hf]
    · rw [if_neg hg, find?_name_cons, ih, find?_name_cons]
      by_cases hf : f.name = name
      · rw [if_pos hf, if_pos hf, if_neg (hf ▸ hg)]
      · rw [if_neg hf, if_neg hf]

theorem names_register (r : Registry) (f : Formatter) :
    (r.register f).names = if f.name ∈ r.names then r.names else r.names ++ [f.name] :=
  map_name_insert f r.formatters

/-! ### Runs -/

/-- Does `r` answer as if `known` were all formatters that were ever registered? -/
structure Reflects (r : Registry) (known : List Formatter) : Prop where
  nodup : r.names.Nodup
  names_eq : r.names = (known.map Formatter.name).eraseDups
  find?_eq : ∀ name,
    r.formatters.find? (·.name == name) = known.reverse.find? (·.name == name)

theorem reflects_nil (default : String) : Reflects ⟨[], default⟩ [] :=
  ⟨List.nodup_nil, rfl, fun _ => rfl⟩

theorem Reflects.mem_names_iff (h : r.Reflects known) (name : String) :
    name ∈ r.names ↔ name ∈ known.map Formatter.name := by
  rw [h.names_eq, List.mem_eraseDups]

theorem Reflects.register (h : r.Reflects known) (f : Formatter) :
    (r.register f).Reflects (known ++ [f]) := by
  refine ⟨?_, ?_, ?_⟩
  · rw [names_register]
    split
    · exact h.nodup
    · rename_i hf
      rw [← List.concat_eq_append]
      exact h.nodup.concat hf
  · rw [names_register, List.map_append, List.map_singleton, eraseDups_concat, ← h.names_eq]
    simp only [h.mem_names_iff]
  · intro name
    rw [Registry.register, find?_insert, h.find?_eq, List.reverse_append, List.reverse_singleton,
      List.singleton_append, find?_name_cons]

theorem setDefault_of_mem {name : String} (h : name ∈ r.names) :
    r.setDefault name = ({ r with default := name }, .ok ()) := by
  rw [setDefault, if_pos]
  simpa [names] using h

theorem setDefault_of_not_mem {name : String} (h : name ∉ r.names) :
    r.setDefault name = (r, .error (r.unknown name)) := by
  rw [setDefault, if_neg]
  simpa [names] using h

/-- A call leaves the formatters alone or registers one. -/
theorem Reflects.call (h : r.Reflects known) (c : Call) :
    (r.call c).1.Reflects (known ++ c.formatter?.toList) := by
  cases c with
  | register f => exact h.register f
  | setDefault name =>
    rw [Call.formatter?, Option.toList_none, List.append_nil, Registry.call]
    by_cases hname : name ∈ r.names
    · rw [setDefault_of_mem hname]
      exact ⟨h.nodup, h.names_eq, h.find?_eq⟩
    · rw [setDefault_of_not_mem hname]
      exact h

theorem Reflects.run (h : r.Reflects known) (calls : List Call) :
    (r.run calls).Reflects (known ++ calls.filterMap Call.formatter?) := by
  induction calls generalizing r known with
  | nil =>
    rw [List.filterMap_nil, List.append_nil]
    exact h
  | cons c calls ih =>
    have hrest := ih (h.call c)
    rw [List.append_assoc] at hrest
    cases c with
    | register f => exact hrest
    | setDefault name => exact hrest

theorem default_mem_names_call (h : r.default ∈ r.names) (c : Call) :
    (r.call c).1.default ∈ (r.call c).1.names := by
  cases c with
  | register f =>
    show r.default ∈ (r.register f).names
    rw [names_register]
    split
    · exact h
    · exact List.mem_append_left _ h
  | setDefault name =>
    rw [call]
    by_cases hname : name ∈ r.names
    · rw [setDefault_of_mem hname]
      exact hname
    · rw [setDefault_of_not_mem hname]
      exact h

theorem default_mem_names_run (h : r.default ∈ r.names) (calls : List Call) :
    (r.run calls).default ∈ (r.run calls).names := by
  induction calls generalizing r with
  | nil => exact h
  | cons c calls ih => exact ih (default_mem_names_call h c)

theorem default_run (r : Registry) (calls : List Call) :
    (r.run calls).default = (r.accepted calls).getLast?.getD r.default := by
  induction calls generalizing r with
  | nil => rfl
  | cons c calls ih =>
    have hrun : r.run (c :: calls) = (r.call c).1.run calls := rfl
    rw [hrun, ih]
    cases c with
    | register f => rfl
    | setDefault name =>
      rw [call, accepted]
      by_cases hname : name ∈ r.names
      · rw [setDefault_of_mem hname]
        simp [List.getLast?_cons]
      · rw [setDefault_of_not_mem hname]

/-! ### Answers -/

theorem get_eq_ok_iff {name : Option String} {f : Formatter} :
    r.get name = .ok f ↔
      r.formatters.find? (·.name == name.getD r.default) = some f := by
  rw [get]
  split
  · rename_i g hg
    rw [hg, Except.ok.injEq, Option.some_inj]
  · rename_i hnone
    simp [hnone]

theorem get_eq_error_iff {name : Option String} {e : UnknownFormat} :
    r.get name = .error e ↔ name.getD r.default ∉ r.names ∧ e = r.unknown (name.getD r.default) := by
  have hnames : name.getD r.default ∉ r.names ↔
      r.formatters.find? (·.name == name.getD r.default) = none := by
    simp [names]
  rw [get, hnames]
  split
  · rename_i g hg
    simp [hg]
  · rename_i hnone
    simp [hnone, eq_comm]

theorem call_setDefault_eq_error_iff {name : String} {e : UnknownFormat} :
    (r.call (.setDefault name)).2 = .error e ↔ name ∉ r.names ∧ e = r.unknown name := by
  rw [call]
  by_cases hname : name ∈ r.names
  · simp [setDefault_of_mem hname, hname]
  · simp [setDefault_of_not_mem hname, hname, eq_comm]

theorem call_eq_self_of_error {c : Call} {e : UnknownFormat} (h : (r.call c).2 = .error e) :
    (r.call c).1 = r := by
  cases c with
  | register f => exact absurd h (by simp [call])
  | setDefault name =>
    obtain ⟨hname, -⟩ := call_setDefault_eq_error_iff.mp h
    rw [call, setDefault_of_not_mem hname]

theorem initial_reflects : initial.Reflects builtIn :=
  ((reflects_nil Shell.zsh.name).register Shell.zsh.formatter).register Shell.bash.formatter

/-- **What a registry answers after any calls.**  The names are different, and
each stands where it was first registered, those of the two shells in front.
The default is registered, so it is always found; it is the name that was
accepted last.  A name stands for the formatter that was registered last under
it.  It is unknown, which the answer says with all known names, exactly if no
formatter was registered under it; a default that is refused so changes
nothing. -/
theorem registry_run_initial (calls : List Call) :
    let r := initial.run calls
    let known := builtIn ++ calls.filterMap Call.formatter?
    r.names.Nodup ∧
    r.names = (known.map Formatter.name).eraseDups ∧
    ["zsh", "bash"] <+: r.names ∧
    r.default ∈ r.names ∧
    r.default = (initial.accepted calls).getLast?.getD "zsh" ∧
    (∃ f, r.get none = .ok f ∧ r.get (some r.default) = .ok f ∧ f.name = r.default) ∧
    (∀ name f, r.get (some name) = .ok f ↔
      known.reverse.find? (·.name == name) = some f) ∧
    (∀ name e, r.get (some name) = .error e ↔
      name ∉ known.map Formatter.name ∧ e = ⟨name, r.names⟩) ∧
    (∀ name e, (r.call (.setDefault name)).2 = .error e ↔
      name ∉ known.map Formatter.name ∧ e = ⟨name, r.names⟩) ∧
    ∀ c e, (r.call c).2 = .error e → (r.call c).1 = r := by
  intro r known
  have h : r.Reflects known := initial_reflects.run calls
  have hdefault : r.default ∈ r.names := default_mem_names_run (by decide) calls
  refine ⟨h.nodup, h.names_eq, ?_, hdefault, default_run initial calls, ?_, ?_, ?_, ?_, ?_⟩
  · rw [h.names_eq, List.map_append, List.eraseDups_append]
    exact List.prefix_append _ _
  · cases hget : r.get none with
    | error e => exact absurd hdefault (get_eq_error_iff.mp hget).1
    | ok f =>
      have hfind := get_eq_ok_iff.mp hget
      refine ⟨f, rfl, get_eq_ok_iff.mpr hfind, ?_⟩
      simpa using List.find?_some hfind
  · intro name f
    rw [get_eq_ok_iff, Option.getD_some, h.find?_eq]
  · intro name e
    rw [get_eq_error_iff, Option.getD_some, h.mem_names_iff]
    rfl
  · intro name e
    rw [call_setDefault_eq_error_iff, h.mem_names_iff]
    rfl
  · intro c e hc
    exact call_eq_self_of_error hc

/-- A format is refused as default, registered and accepted; then zsh is
replaced where it stands, and another default is refused. -/
theorem registry_run_initial_sample :
    let fish : Formatter := ⟨"fish", fun _ => "# fish\n"⟩
    let plain : Formatter := ⟨"zsh", fun _ => "# replaced\n"⟩
    let r := initial.run [.setDefault "fish", .register fish, .setDefault "fish", .register plain]
    r.names = ["zsh", "bash", "fish"] ∧ r.default = "fish" ∧ r.get (some "zsh") = .ok plain ∧
      (r.call (.setDefault "vim")).2 = .error ⟨"vim", r.names⟩ ∧
      (r.call (.setDefault "vim")).1 = r := by
  intro fish plain r
  obtain ⟨-, hnames, -, -, hdefault, -, hget, -, hrefused, hsame⟩ := registry_run_initial
    [.setDefault "fish", .register fish, .setDefault "fish", .register plain]
  have hvim : (r.call (.setDefault "vim")).2 = .error ⟨"vim", r.names⟩ :=
    (hrefused "vim" _).mpr ⟨by decide, rfl⟩
  exact ⟨hnames, hdefault, (hget "zsh" plain).mpr rfl, hvim, hsame _ _ hvim⟩

end Dotfile.Registry

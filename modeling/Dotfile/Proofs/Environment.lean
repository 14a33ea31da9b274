/-
The environment that the assignments of a startup file make, and what edits do
to it.

A name may be assigned several times, and a look-up reads the list of
assignments from its end.  What a shell makes of the list is simpler: a map from
names to values, to which each assignment is applied in turn.

* `lookup?_eq_environment` — a look-up finds the value in the map;
* `environment_apply` — each edit acts on the map, whatever the duplicates;
* `count_names_apply` — how many assignments of a name an edit leaves;
* `edits_refine_environment` — all of this for runs of edits, and which entries
  an edit touches;
* `mem_names_run_iff` — a name is assigned after a run exactly if it was set and
  not removed afterwards, or was there and was not removed;
* `isVariable_names_run_iff` — so a run keeps the names well-formed exactly if
  each name it sets is well-formed or is removed afterwards.
-/
import Dotfile.Proofs.Provenance
import Mathlib.Logic.Function.Basic

namespace Dotfile

open Text Line

/-- The values of variables; a name without a value is not assigned. -/
abbrev Environment := String → Option String

/-- The environment after an assignment. -/
def Environment.assign (m : Environment) (v : EnvVar) : Environment :=
  Function.update m v.name (some v.value)

/-- An edit, as far as it is seen in the environment. -/
def Environment.edit (m : Environment) : Edit → Environment
  | .setEnv name value _ => Function.update m name (some value)
  | .removeEnv name => Function.update m name none
  | .addPath .. | .removePath _ | .movePath .. => m

/-- How many assignments of `name` there are after an edit, if there were `k`. -/
def Edit.countAfter (name : String) (k : Nat) : Edit → Nat
  | setEnv n _ _ => if n = name then max 1 k else k
  | removeEnv n => if n = name then 0 else k
  | addPath .. | removePath _ | movePath .. => k

namespace Config

/-- The environment after the assignments, from the first to the last. -/
def environment (c : Config) : Environment :=
  c.envVars.foldl Environment.assign fun _ => none

/-! ### Look-ups -/

/-- Assignments hide what was there before, and the last one hides the others. -/
theorem foldl_assign_apply (vars : List EnvVar) (m : Environment) (name : String) :
    vars.foldl Environment.assign m name =
      ((vars.reverse.find? (·.name == name)).map EnvVar.value).or (m name) := by
  induction vars generalizing m with
  | nil => rfl
  | cons v vars ih =>
    rw [List.foldl_cons, ih, List.reverse_cons, List.find?_append, Option.map_or, Option.or_assoc]
    congr 1
    by_cases hv : v.name = name
    · simp [hv, Environment.assign]
    · simp [hv, Environment.assign, Function.update_of_ne (Ne.symm hv)]

theorem lookup?_eq_environment (c : Config) (name : String) :
    (c.lookup? name).map EnvVar.value = c.environment name := by
  rw [environment, foldl_assign_apply, Option.or_none]
  rfl

theorem lookup?_setEnv_of_ne (c : Config) {name other : String} (hne : other ≠ name)
    (value source : String) : (c.setEnv name value source).lookup? other = c.lookup? other := by
  obtain ⟨before, v, behind, hvars, rfl, -, heq⟩ | ⟨-, heq⟩ := c.setEnv_cases name value source
  · rw [heq, lookup?, lookup?, hvars]
    simp [hne.symm]
  · rw [heq, lookup?, lookup?]
    simp [hne.symm]

theorem lookup?_removeEnv_of_ne (c : Config) {name other : String} (hne : other ≠ name) :
    (c.removeEnv name).lookup? other = c.lookup? other := by
  rw [lookup?, lookup?, removeEnv, ← List.filter_reverse, List.find?_filter]
  congr 1
  funext v
  by_cases hv : v.name = other
  · simp [hv, hne]
  · simp [hv]

/-! ### The map under edits -/

theorem environment_apply (c : Config) (e : Edit) :
    (e.apply c).environment = c.environment.edit e := by
  cases e with
  | setEnv name value source =>
    funext other
    rw [← lookup?_eq_environment, Edit.apply, Environment.edit]
    by_cases hne : other = name
    · rw [hne, map_value_lookup?_setEnv, Function.update_self]
    · rw [lookup?_setEnv_of_ne c hne, Function.update_of_ne hne, lookup?_eq_environment]
  | removeEnv name =>
    funext other
    rw [← lookup?_eq_environment, Edit.apply, Environment.edit]
    by_cases hne : other = name
    · rw [hne, lookup?_removeEnv, Function.update_self, Option.map_none]
    · rw [lookup?_removeEnv_of_ne c hne, Function.update_of_ne hne, lookup?_eq_environment]
  | addPath dir position source => rfl
  | removePath dir => rfl
  | movePath dir position => rfl

theorem environment_run (c : Config) (edits : List Edit) :
    (Edit.run c edits).environment = edits.foldl Environment.edit c.environment := by
  symm
  apply List.foldl_hom environment
  intro d e
  exact (environment_apply d e).symm

/-! ### Names -/

theorem names_eq_map_subject (c : Config) :
    c.names = (c.envVars.map EnvVar.origin).map Origin.subject := by
  rw [List.map_map]
  rfl

theorem names_apply (c : Config) (e : Edit) :
    (e.apply c).names =
      c.names.filter (fun name => .removeEnv name ≠ e) ++ (e.newVars c).map Origin.subject := by
  rw [names_eq_map_subject, names_eq_map_subject, origins_envVars_apply, List.map_append]
  conv_rhs => rw [List.filter_map]
  rfl

theorem count_names_apply (c : Config) (e : Edit) (name : String) :
    (e.apply c).names.count name = e.countAfter name (c.names.count name) := by
  rw [names_apply, List.count_append]
  cases e with
  | setEnv n value source =>
    rw [List.filter_eq_self.mpr (by simp), Edit.newVars, Edit.countAfter]
    by_cases hn : n ∈ c.names
    · have hpos : 0 < c.names.count n := List.count_pos_iff.mpr hn
      rw [if_pos hn]
      by_cases hname : n = name
      · subst hname
        rw [if_pos rfl, List.map_nil, List.count_nil, Nat.add_zero, Nat.max_eq_right hpos]
      · simp [hname]
    · have hzero : c.names.count n = 0 := List.count_eq_zero.mpr hn
      rw [if_neg hn]
      by_cases hname : n = name
      · subst hname
        simp [hzero]
      · simp [hname]
  | removeEnv n =>
    rw [Edit.newVars, Edit.countAfter]
    by_cases hname : n = name
    · subst hname
      simp [List.count_eq_zero]
    · rw [List.count_filter (by simpa using Ne.symm hname), if_neg hname]
      simp
  | addPath dir position source => simp [Edit.newVars, Edit.countAfter]
  | removePath dir => simp [Edit.newVars, Edit.countAfter]
  | movePath dir position => simp [Edit.newVars, Edit.countAfter]

theorem count_names_run (c : Config) (edits : List Edit) (name : String) :
    (Edit.run c edits).names.count name =
      edits.foldl (fun k e => e.countAfter name k) (c.names.count name) := by
  symm
  apply List.foldl_hom fun d : Config => d.names.count name
  intro d e
  exact (count_names_apply d e name).symm

/-- **The edits refine a map from names to values.**  A look-up finds what is in
the map, and a run of edits acts on the map as it does on the configuration.
Along the run, setting a name leaves its assignments or makes one, removing it
leaves none, and no other name gains or loses assignments.  The entries that an
edit leaves stay in their order, and what it adds comes behind them.  Setting a
name changes the value of its last assignment and nothing else, also none of the
earlier assignments of that name; if there is none, one is added at the end. -/
theorem edits_refine_environment (c : Config) (edits : List Edit) :
    (∀ name, (c.lookup? name).map EnvVar.value = c.environment name) ∧
    (Edit.run c edits).environment = edits.foldl Environment.edit c.environment ∧
    (∀ name, (Edit.run c edits).names.count name =
      edits.foldl (fun k e => e.countAfter name k) (c.names.count name)) ∧
    ∀ e : Edit,
      let d := Edit.run c edits
      (e.apply d).envVars.map EnvVar.origin =
        (d.envVars.map EnvVar.origin).filter (fun o => .removeEnv o.subject ≠ e) ++ e.newVars d ∧
      (e.apply d).pathEntries.map PathEntry.origin =
        (d.pathEntries.map PathEntry.origin).filter (fun o => .removePath o.subject ≠ e) ++
          e.newPaths ∧
      ∀ name value source, e = .setEnv name value source →
        (∃ before v behind, d.envVars = before ++ v :: behind ∧ v.name = name ∧
          (∀ u ∈ behind, u.name ≠ name) ∧
          e.apply d = { d with envVars := before ++ { v with value } :: behind }) ∨
        ((∀ v ∈ d.envVars, v.name ≠ name) ∧
          e.apply d = { d with envVars := d.envVars ++ [⟨name, value, none, source⟩] }) := by
  refine ⟨c.lookup?_eq_environment, c.environment_run edits, c.count_names_run edits, ?_⟩
  intro e d
  refine ⟨origins_envVars_apply d e, origins_pathEntries_apply d e, ?_⟩
  rintro name value source rfl
  exact d.setEnv_cases name value source

end Config

/-! ### Names that a run leaves -/

/-- Is `name` one that a file can assign? -/
def IsVariable (name : String) : Prop :=
  IsName name.toList ∧ name ≠ "PATH"

namespace Edit

/-- Do the edits set `name`, and not remove it afterwards? -/
def Introduces (edits : List Edit) (name : String) : Prop :=
  ∃ before value source after,
    edits = before ++ .setEnv name value source :: after ∧ .removeEnv name ∉ after

theorem introduces_cons {e : Edit} {edits : List Edit} {name : String} :
    Introduces (e :: edits) name ↔
      Introduces edits name ∨
        (∃ value source, e = .setEnv name value source) ∧ .removeEnv name ∉ edits := by
  constructor
  · rintro ⟨before, value, source, after, heq, hafter⟩
    cases before with
    | nil =>
      obtain ⟨rfl, rfl⟩ := List.cons.inj heq
      exact .inr ⟨⟨value, source, rfl⟩, hafter⟩
    | cons d before =>
      obtain ⟨rfl, rfl⟩ := List.cons.inj heq
      exact .inl ⟨before, value, source, after, rfl, hafter⟩
  · rintro (⟨before, value, source, after, rfl, hafter⟩ | ⟨⟨value, source, rfl⟩, hedits⟩)
    · exact ⟨e :: before, value, source, after, rfl, hafter⟩
    · exact ⟨[], value, source, edits, rfl, hedits⟩

end Edit

namespace Config

theorem mem_names_apply_iff (c : Config) (e : Edit) (name : String) :
    name ∈ (e.apply c).names ↔
      (∃ value source, e = .setEnv name value source) ∨ name ∈ c.names ∧ .removeEnv name ≠ e := by
  rw [← List.count_pos_iff, count_names_apply, ← List.count_pos_iff]
  cases e with
  | setEnv n value source =>
    rw [Edit.countAfter]
    by_cases hn : n = name
    · have hpos : 0 < max 1 (c.names.count name) := by omega
      simp [hn, hpos]
    · simp [hn]
  | removeEnv n =>
    rw [Edit.countAfter]
    by_cases hn : n = name
    · simp [hn]
    · simp [hn, Ne.symm hn]
  | addPath dir position source => simp [Edit.countAfter]
  | removePath dir => simp [Edit.countAfter]
  | movePath dir position => simp [Edit.countAfter]

theorem mem_names_run_iff (c : Config) (edits : List Edit) (name : String) :
    name ∈ (Edit.run c edits).names ↔
      Edit.Introduces edits name ∨ name ∈ c.names ∧ .removeEnv name ∉ edits := by
  induction edits generalizing c with
  | nil => simp [Edit.run, Edit.Introduces]
  | cons e edits ih =>
    have hrun : Edit.run c (e :: edits) = Edit.run (e.apply c) edits := rfl
    rw [hrun, ih, mem_names_apply_iff, Edit.introduces_cons, List.mem_cons, not_or,
      or_and_right, and_assoc, or_assoc]

/-- What the configuration starts with, a run can only remove. -/
theorem isVariable_run_iff {c : Config} (h : ∀ v ∈ c.envVars, IsVariable v.name)
    (edits : List Edit) :
    (∀ v ∈ (Edit.run c edits).envVars, IsVariable v.name) ↔
      ∀ name, Edit.Introduces edits name → IsVariable name := by
  have hnames : ∀ d : Config,
      (∀ v ∈ d.envVars, IsVariable v.name) ↔ ∀ name ∈ d.names, IsVariable name := by
    intro d
    rw [names, List.forall_mem_map]
  rw [hnames] at h ⊢
  constructor
  · intro hrun name hname
    exact hrun name ((mem_names_run_iff c edits name).mpr (.inl hname))
  · intro hset name hname
    rcases (mem_names_run_iff c edits name).mp hname with hname | ⟨hname, -⟩
    · exact hset name hname
    · exact h name hname

/-- **When the names stay well-formed.**  Edits of the empty configuration or of
a file leave only variables that a file can assign, exactly if each other name
that is set is removed afterwards. -/
theorem isVariable_names_run_iff (text source : String) (edits : List Edit) :
    ((∀ v ∈ (Edit.run empty edits).envVars, IsVariable v.name) ↔
      ∀ name, Edit.Introduces edits name → IsVariable name) ∧
    ((∀ v ∈ (Edit.run (parse text source) edits).envVars, IsVariable v.name) ↔
      ∀ name, Edit.Introduces edits name → IsVariable name) := by
  constructor
  · apply isVariable_run_iff
    exact fun v hv => absurd hv List.not_mem_nil
  · apply isVariable_run_iff
    intro v hv
    have hassign := (parse_wellFormed text source).env v hv
    exact ⟨hassign.isName, hassign.ne_path⟩

/-- Setting `PATH`, or a name that is none, makes a variable of it. -/
theorem setEnv_breaks_names :
    (∃ v ∈ (Edit.run empty [.setEnv "PATH" "/opt/bin"]).envVars, ¬ IsVariable v.name) ∧
      ∃ v ∈ (Edit.run empty [.setEnv "1 A" "x"]).envVars, ¬ IsVariable v.name := by
  refine ⟨⟨⟨"PATH", "/opt/bin", none, manualSource⟩, by decide, ?_⟩,
    ⟨⟨"1 A", "x", none, manualSource⟩, by decide, ?_⟩⟩
  · exact fun h => h.2 rfl
  · exact fun h => absurd h.1 (by decide)

end Config

end Dotfile

/-
Setting and removing a variable, and finding it again in the saved file.

* `setEnv_cases` — setting a variable changes the value of its last
  assignment, or adds an assignment at the end, and does nothing else;
* `bindings_setEnv`, `bindings_removeEnv` — the edits of variables, seen in
  names and values alone;
* `map_value_lookup?_eq` — a look-up sees only names and values, and of these
  only the last binding;
* `lookup?_setEnv_parse_render_iff` — which settings are found again in the
  file that is saved, and that a removed variable is never found.

A file with a bad name or with a value of several lines may hold anything
after it is saved.  What decides these cases is not the file but what a file
can give when it is read (`parse_wellFormed`).
-/
import Dotfile.Proofs.RoundTrip

namespace Dotfile

open Text Line

/-! ### The last item of a kind -/

section ModifyLast

variable {α : Type} {p : α → Bool} {f : α → α} {l l' : List α}

theorem forall_of_modifyLast?_eq_none (h : modifyLast? p f l = none) : ∀ a ∈ l, p a = false := by
  induction l with
  | nil => simp
  | cons a l ih =>
    rw [modifyLast?] at h
    split at h
    · exact absurd h (by simp)
    · rename_i hl
      split at h
      · exact absurd h (by simp)
      · rename_i ha
        intro b hb
        rcases List.mem_cons.mp hb with rfl | hb
        · exact Bool.not_eq_true _ ▸ ha
        · exact ih hl b hb

theorem exists_of_modifyLast?_eq_some (h : modifyLast? p f l = some l') :
    ∃ before a behind, l = before ++ a :: behind ∧ p a = true ∧ (∀ b ∈ behind, p b = false) ∧
      l' = before ++ f a :: behind := by
  induction l generalizing l' with
  | nil => exact absurd h (by simp [modifyLast?])
  | cons a l ih =>
    rw [modifyLast?] at h
    split at h
    · rename_i bs hl
      obtain rfl := Option.some_inj.mp h
      obtain ⟨before, d, behind, rfl, hd, hbehind, rfl⟩ := ih hl
      exact ⟨a :: before, d, behind, rfl, hd, hbehind, rfl⟩
    · rename_i hl
      split at h
      · rename_i ha
        obtain rfl := Option.some_inj.mp h
        exact ⟨[], a, l, rfl, ha, forall_of_modifyLast?_eq_none hl, rfl⟩
      · exact absurd h (by simp)

/-- Changing the last item of a kind commutes with a view of the items. -/
theorem modifyLast?_map {β : Type} {q : β → Bool} {f' : β → β} {g : α → β}
    (hq : ∀ a, q (g a) = p a) (hf : ∀ a, f' (g a) = g (f a)) (l : List α) :
    modifyLast? q f' (l.map g) = (modifyLast? p f l).map (List.map g) := by
  induction l with
  | nil => rfl
  | cons a l ih =>
    rw [List.map_cons, modifyLast?, modifyLast?, ih]
    cases modifyLast? p f l with
    | some bs => rfl
    | none =>
      rw [Option.map_none, hq, hf]
      cases p a <;> rfl

end ModifyLast

namespace Config

variable {c : Config}

/-! ### What the edits do -/

theorem setEnv_cases (c : Config) (name value source : String) :
    (∃ before v behind, c.envVars = before ++ v :: behind ∧ v.name = name ∧
      (∀ u ∈ behind, u.name ≠ name) ∧
      c.setEnv name value source = { c with envVars := before ++ { v with value } :: behind }) ∨
    ((∀ v ∈ c.envVars, v.name ≠ name) ∧
      c.setEnv name value source =
        { c with envVars := c.envVars ++ [⟨name, value, none, source⟩] }) := by
  rw [setEnv]
  cases hm : modifyLast? (·.name == name) (fun v => { v with value }) c.envVars with
  | none =>
    right
    refine ⟨?_, rfl⟩
    intro v hv
    simpa using forall_of_modifyLast?_eq_none hm v hv
  | some vars =>
    left
    obtain ⟨before, v, behind, hvars, hv, hbehind, rfl⟩ := exists_of_modifyLast?_eq_some hm
    exact ⟨before, v, behind, hvars, by simpa using hv, by simpa using hbehind, rfl⟩

/-- An assignment after a variable is set was there before, or is the one that was set. -/
theorem mem_envVars_setEnv {name value source : String} {u : EnvVar}
    (h : u ∈ (c.setEnv name value source).envVars) :
    u ∈ c.envVars ∨ u.name = name ∧ u.value = value := by
  obtain ⟨before, v, behind, hvars, hname, -, heq⟩ | ⟨-, heq⟩ := c.setEnv_cases name value source
  · rw [heq] at h
    rw [hvars]
    rcases List.mem_append.mp h with h | h
    · exact .inl (by simp [h])
    · rcases List.mem_cons.mp h with rfl | h
      · exact .inr ⟨hname, rfl⟩
      · exact .inl (by simp [h])
  · rw [heq] at h
    rcases List.mem_append.mp h with h | h
    · exact .inl h
    · obtain rfl := List.mem_singleton.mp h
      exact .inr ⟨rfl, rfl⟩

theorem setEnv_wellFormed (h : c.WellFormed) {name value : String} (hv : Assignable name value)
    (source : String) : (c.setEnv name value source).WellFormed := by
  refine ⟨?_, h.path, h.raw⟩
  intro u hu
  rcases mem_envVars_setEnv hu with hu | ⟨rfl, rfl⟩
  · exact h.env u hu
  · exact hv

theorem removeEnv_wellFormed (h : c.WellFormed) (name : String) : (c.removeEnv name).WellFormed :=
  ⟨fun v hv => h.env v (List.mem_filter.mp hv).1, h.path, h.raw⟩

theorem bindings_setEnv (c : Config) (name value source : String) :
    (c.setEnv name value source).bindings =
      (modifyLast? (·.1 == name) (fun b => (b.1, value)) c.bindings).getD
        (c.bindings ++ [(name, value)]) := by
  have hmap : modifyLast? (·.1 == name) (fun b => (b.1, value)) c.bindings =
      (modifyLast? (·.name == name) (fun v => { v with value }) c.envVars).map
        (List.map fun v => (v.name, v.value)) := by
    apply modifyLast?_map
    · exact fun v => rfl
    · exact fun v => rfl
  rw [hmap, bindings, bindings, setEnv]
  cases modifyLast? (·.name == name) (fun v => { v with value }) c.envVars with
  | some vars => rfl
  | none =>
    rw [Option.map_none, Option.getD_none, Option.getD_none, List.map_append]
    rfl

theorem bindings_removeEnv (c : Config) (name : String) :
    (c.removeEnv name).bindings = c.bindings.filter (·.1 != name) := by
  rw [bindings, bindings, List.filter_map]
  rfl

/-! ### Look-ups -/

theorem map_value_lookup?_eq (c : Config) (name : String) :
    (c.lookup? name).map EnvVar.value =
      (c.bindings.reverse.find? (·.1 == name)).map Prod.snd := by
  rw [lookup?, bindings, ← List.map_reverse, List.find?_map, Option.map_map]
  rfl

theorem map_value_lookup?_setEnv (c : Config) (name value source : String) :
    ((c.setEnv name value source).lookup? name).map EnvVar.value = some value := by
  obtain ⟨before, v, behind, -, rfl, hbehind, heq⟩ | ⟨-, heq⟩ := c.setEnv_cases name value source
  · -- read from the end, the changed assignment is the first of its name
    have hnone : behind.reverse.find? (·.name == v.name) = none := by
      rw [List.find?_eq_none]
      intro u hu
      simpa using hbehind u (List.mem_reverse.mp hu)
    rw [heq, lookup?, List.reverse_append, List.reverse_cons, List.append_assoc, List.find?_append,
      hnone]
    simp
  · rw [heq, lookup?, List.reverse_append]
    simp

theorem lookup?_removeEnv (c : Config) (name : String) :
    (c.removeEnv name).lookup? name = none := by
  rw [lookup?, List.find?_eq_none]
  intro v hv
  rw [List.mem_reverse, removeEnv, List.mem_filter] at hv
  simpa using hv.2

/-- What is found in a file that was saved is what would have been found before,
peeled. -/
theorem map_value_lookup?_parse_render (h : c.WellFormed) (ref : PathRef) (source name : String) :
    ((parse (c.render ref) source).lookup? name).map EnvVar.value =
      ((c.lookup? name).map EnvVar.value).map peel := by
  rw [map_value_lookup?_eq, bindings_parse_render h, map_value_lookup?_eq, ← List.map_reverse,
    List.find?_map, Option.map_map, Option.map_map]
  rfl

theorem assignable_of_lookup?_parse {text source name : String} {v : EnvVar}
    (h : (parse text source).lookup? name = some v) : Assignable name v.value := by
  have hname : v.name = name := by simpa using List.find?_some h
  have hmem : v ∈ (parse text source).envVars := List.mem_reverse.mp (List.mem_of_find?_eq_some h)
  exact hname ▸ (parse_wellFormed text source).env v hmem

/-- **Setting a variable in a file and looking it up there** gives the value
back exactly if a line can assign it and it is not peeled.  A variable that was
removed is not found. -/
theorem lookup?_setEnv_parse_render_iff (text source name value : String) (ref : PathRef)
    (source' : String) :
    ((∃ v, (parse (((parse text source).setEnv name value).render ref) source').lookup? name =
        some v ∧ v.value = value) ↔
      IsName name.toList ∧ name ≠ "PATH" ∧ '\n' ∉ value.toList ∧
        isBareQuoted value = false) ∧
    (parse (((parse text source).removeEnv name).render ref) source').lookup? name = none := by
  have hwf := parse_wellFormed text source
  -- what is found for an assignment that a line can say
  have hfound : Assignable name value →
      ((parse (((parse text source).setEnv name value).render ref) source').lookup? name).map
        EnvVar.value = some (peel value) := by
    intro ha
    rw [map_value_lookup?_parse_render (setEnv_wellFormed hwf ha manualSource),
      map_value_lookup?_setEnv, Option.map_some]
  refine ⟨⟨?_, ?_⟩, ?_⟩
  · rintro ⟨v, hv, rfl⟩
    -- it was found in a file, so a line can say it
    have ha := assignable_of_lookup?_parse hv
    have hpeel := hfound ha
    rw [hv, Option.map_some, Option.some_inj] at hpeel
    exact ⟨ha.isName, ha.ne_path, ha.newline_not_mem, (peel_eq_self_iff v.value).mp hpeel.symm⟩
  · rintro ⟨hname, hpath, hnl, hbare⟩
    have hvalue := hfound ⟨hname, hpath, hnl⟩
    rw [peel_of_not_isBareQuoted hbare] at hvalue
    exact Option.map_eq_some_iff.mp hvalue
  · have hnone := map_value_lookup?_parse_render (removeEnv_wellFormed hwf name) ref source' name
    rw [lookup?_removeEnv] at hnone
    simpa using hnone

end Config

end Dotfile

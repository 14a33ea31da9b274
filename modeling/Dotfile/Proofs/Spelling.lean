/-
How commands are spelled.

Every command with every choice of options can be written down, and is understood
as written, whatever its names, values and directories look like: options carry
their values in the same word, and a double dash stands before all that could be
taken for an option.

* `Verb.spellings`, `Invocation.spelling` — the words of a command;
* `Scan.step_option`, `Scan.run_options` — a word with an option gives the option,
  and so do several;
* `Leads`, `Leads.run` — the words of a command lead to its level;
* `Scan.step_operand`, `Scan.run_operands` — the words after a double dash are the
  positional arguments in order;
* `Invocation.parse_spelling` — words that spell a command make this command.
-/
import Dotfile.Command.Parser
import Mathlib.Data.List.Basic
import Mathlib.Data.List.Induction

namespace Dotfile

namespace Command

/-! ### Spellings -/

/-- The words that ask for a verb, first without and then with a short form. -/
def Verb.spellings : Verb → List (List String)
  | load => [["load"]]
  | envList => [["env", "list"], ["env", "ls"]]
  | envGet => [["env", "get"]]
  | envSet => [["env", "set"]]
  | envRemove => [["env", "remove"], ["env", "rm"]]
  | pathList => [["path", "list"], ["path", "ls"]]
  | pathAdd => [["path", "add"]]
  | pathRemove => [["path", "remove"], ["path", "rm"]]
  | pathMove => [["path", "move"], ["path", "mv"]]
  | lint => [["lint"]]
  | printAs => [["export"]]
  | formats => [["formats"]]
  | configInit => [["config", "init"]]
  | configPath => [["config", "path"]]

/-- What a command does. -/
def verb : Command → Verb
  | load _ => .load
  | envList _ => .envList
  | envGet _ _ => .envGet
  | envSet _ _ _ _ => .envSet
  | envRemove _ _ _ => .envRemove
  | pathList _ => .pathList
  | pathAdd _ _ _ _ => .pathAdd
  | pathRemove _ _ _ => .pathRemove
  | pathMove _ _ _ _ => .pathMove
  | lint _ => .lint
  | printAs _ _ => .printAs
  | formats => .formats
  | configInit _ => .configInit
  | configPath => .configPath

/-- The word for an option; what is no option stands for itself. -/
def Arg.word : Arg → String → String
  | config, s => "--config=" ++ s
  | verbose, _ => "-v"
  | format, s => "--format=" ++ s
  | position, s => "--position=" ++ s
  | force, _ => "--force"
  | _, s => s

/-- The options of a command.  An option that has no value is listed with an
empty one. -/
def options : Command → List (Arg × String)
  | envSet _ _ _ format | envRemove _ _ format | pathRemove _ _ format
  | pathMove _ _ _ format | printAs _ format => (format.map (Arg.format, ·)).toList
  | pathAdd _ _ position format =>
    (format.map (Arg.format, ·)).toList ++ [(.position, position.name)]
  | configInit force => if force then [(.force, "")] else []
  | load _ | envList _ | envGet _ _ | pathList _ | lint _ | formats | configPath => []

/-- The positional arguments of a command, in order. -/
def operands : Command → List String
  | load file | envList file | pathList file | lint file | printAs file _ => [file]
  | envGet file name | envRemove file name _ => [file, name]
  | envSet file name value _ => [file, name, value]
  | pathAdd file dir _ _ | pathRemove file dir _ => [file, dir]
  | pathMove file dir position _ => [file, dir, position.name]
  | formats | configInit _ | configPath => []

end Command

namespace Invocation

/-- The options that stand before a command. -/
def options (i : Invocation) : List (Command.Arg × String) :=
  (i.config.map (Command.Arg.config, ·)).toList ++ if i.verbose then [(.verbose, "")] else []

/-- The words that ask for `i`, where `names` ask for its verb. -/
def spelling (i : Invocation) (names : List String) : List String :=
  i.options.map (fun p => p.1.word p.2) ++ names ++
    i.command.options.map (fun p => p.1.word p.2) ++
    if i.command.operands = [] then [] else "--" :: i.command.operands

end Invocation

namespace Command

/-! ### Arguments -/

/-- The positional arguments of a command with the places that they have. -/
def placed (c : Command) : List (Arg × String) :=
  c.verb.positionals.zip c.operands

theorem map_fst_placed (c : Command) : c.placed.map Prod.fst = c.verb.positionals := by
  cases c <;> rfl

theorem map_snd_placed (c : Command) : c.placed.map Prod.snd = c.operands := by
  cases c <;> rfl

/-- The arguments say which command it is. -/
theorem ofVerb_arguments (c : Command) :
    ofVerb c.verb (fun a => (c.options ++ c.placed).lookup a) = c := by
  cases c with
  | pathAdd _ _ position format => cases position <;> cases format <;> rfl
  | pathMove _ _ position format => cases position <;> cases format <;> rfl
  | configInit force => cases force <;> rfl
  | envSet _ _ _ format | envRemove _ _ format | pathRemove _ _ format | printAs _ format =>
    cases format <;> rfl
  | _ => rfl

/-- Can these arguments be given together?  Each has a good value, and none is
there twice. -/
structure Givable (args : List (Arg × String)) : Prop where
  nodup : (args.map Prod.fst).Nodup
  accepts : ∀ p ∈ args, p.1.accepts p.2 = true

theorem Givable.of_append {args args' : List (Arg × String)} (h : Givable (args ++ args')) :
    Givable args := by
  refine ⟨?_, fun p hp => h.accepts p (List.mem_append_left _ hp)⟩
  exact h.nodup.sublist ((List.sublist_append_left args args').map Prod.fst)

/-- Can the argument be given as an option at level `l`? -/
inductive OptionAt (l : Level) : Arg × String → Prop
  | valued {a : Arg} {value : String} (hmem : a ∈ l.options) (htakes : a.takesValue = true)
    (haccepts : a.accepts value = true) : OptionAt l (a, value)
  | verbose (hmem : .verbose ∈ l.options) : OptionAt l (.verbose, "")
  | force (hmem : .force ∈ l.options) : OptionAt l (.force, "")

theorem OptionAt.accepts {l : Level} {p : Arg × String} (h : OptionAt l p) :
    p.1.accepts p.2 = true := by
  cases h with
  | valued _ _ haccepts => exact haccepts
  | verbose _ => rfl
  | force _ => rfl

theorem accepts_name (position : Position) :
    Arg.position.accepts position.name = true ∧ Arg.place.accepts position.name = true := by
  cases position <;> decide

theorem optionAt_format {v : Verb} (hmem : .format ∈ v.options) (format : Option String) :
    ∀ p ∈ (format.map (Arg.format, ·)).toList, OptionAt (.verb v) p := by
  intro p hp
  obtain ⟨f, -, rfl⟩ := Option.map_eq_some_iff.mp (Option.mem_toList.mp hp)
  exact .valued (List.mem_append_left _ hmem) rfl rfl

theorem optionAt_options (c : Command) : ∀ p ∈ c.options, OptionAt (.verb c.verb) p := by
  cases c with
  | envSet _ _ _ format | envRemove _ _ format | pathRemove _ _ format
  | pathMove _ _ _ format | printAs _ format => exact optionAt_format List.mem_cons_self format
  | pathAdd _ _ position format =>
    intro p hp
    rcases List.mem_append.mp hp with hp | hp
    · exact optionAt_format (List.mem_cons_of_mem _ List.mem_cons_self) format p hp
    · obtain rfl := List.mem_singleton.mp hp
      exact .valued List.mem_cons_self rfl (accepts_name position).1
  | configInit force =>
    intro p hp
    rw [options] at hp
    split at hp
    · obtain rfl := List.mem_singleton.mp hp
      exact .force List.mem_cons_self
    · exact absurd hp List.not_mem_nil
  | _ => exact fun p hp => absurd hp List.not_mem_nil

theorem optionAt_root {i : Invocation} (hconfig : i.config ≠ some "") :
    ∀ p ∈ i.options, OptionAt .root p := by
  intro p hp
  rcases List.mem_append.mp hp with hp | hp
  · obtain ⟨config, hsome, rfl⟩ := Option.map_eq_some_iff.mp (Option.mem_toList.mp hp)
    have hne : config ≠ "" := by
      rintro rfl
      exact hconfig hsome
    exact .valued List.mem_cons_self rfl (decide_eq_true hne)
  · split at hp
    · obtain rfl := List.mem_singleton.mp hp
      exact .verbose (List.mem_cons_of_mem _ List.mem_cons_self)
    · exact absurd hp List.not_mem_nil

/-! ### The grammar -/

/-- No two options have the same long name. -/
theorem Arg.eq_of_long?_eq {a b : Arg} (h : a.long? = b.long?) (hsome : a.long?.isSome = true) :
    a = b := by
  cases a <;> cases b <;> simp_all [Arg.long?]

theorem Arg.notMem_toList_of_long? {a : Arg} {name : String} (h : a.long? = some name) :
    '=' ∉ name.toList := by
  cases a <;> simp_all [Arg.long?] <;> subst h <;> decide

/-- An option with a value is the long name and the value with an equals sign between. -/
theorem Arg.exists_toList_word {a : Arg} (htakes : a.takesValue = true)
    (hsome : a.long?.isSome = true) (value : String) :
    ∃ name, a.long? = some name ∧
      (a.word value).toList = '-' :: '-' :: (name.toList ++ '=' :: value.toList) := by
  cases a with
  | config => exact ⟨"config", rfl, String.toList_append⟩
  | format => exact ⟨"format", rfl, String.toList_append⟩
  | position => exact ⟨"position", rfl, String.toList_append⟩
  | verbose | help | version | force => exact absurd htakes (by decide)
  | file | name | value | dir | place => exact absurd hsome (by decide)

namespace Level

theorem isSome_long? {l : Level} {a : Arg} (ha : a ∈ l.options) : a.long?.isSome = true := by
  revert a
  cases l with
  | verb v => cases v <;> decide
  | _ => decide

/-- An option is found by its long name. -/
theorem long?_of_mem {l : Level} {a : Arg} {name : String} (ha : a ∈ l.options)
    (hname : a.long? = some name) : l.long? name = some a := by
  cases hfound : l.long? name with
  | none => exact absurd hname (by simpa using List.find?_eq_none.mp hfound a ha)
  | some b =>
    -- options at a level are looked up in order, but only one has this name
    have hb : b.long? = some name := by simpa using List.find?_some hfound
    rw [Arg.eq_of_long?_eq (hb.trans hname.symm) (by rw [hb]; rfl)]

theorem short?_verbose (l : Level) : l.short? 'v' = some .verbose := by
  cases l with
  | verb v => cases v <;> rfl
  | _ => rfl

/-- No word that leads on starts with a dash. -/
theorem lookup_words_of_dash {word : String} {cs : List Char} (h : word.toList = '-' :: cs)
    (l : Level) : l.words.lookup word = none := by
  have hdash : ∀ p ∈ l.words, p.1.toList.head? ≠ some '-' := by
    cases l with
    | verb v => exact fun p hp => absurd hp List.not_mem_nil
    | _ => decide
  rw [List.lookup_eq_none_iff]
  intro p hp
  rw [bne_iff_ne]
  rintro rfl
  exact hdash p hp (by rw [h]; rfl)

end Level

theorem Scan.asksHelp_of_dash {word : String} {cs : List Char} (h : word.toList = '-' :: cs)
    (l : Level) : asksHelp l word = false := by
  have hne : word ≠ "help" := by
    rintro rfl
    exact absurd (List.cons.inj h).1 (by decide)
  simp [asksHelp, hne]

/-! ### Options -/

namespace Given

variable {g : Given} {a : Arg} {value : String}

theorem has_eq_true_iff : g.has a = true ↔ a ∈ g.args.map Prod.fst := by
  rw [has, List.any_eq_true, List.mem_map]
  simp only [beq_iff_eq]

theorem add_of_givable (h : Givable (g.args ++ [(a, value)])) :
    g.add a value = .ok { g with args := g.args ++ [(a, value)] } := by
  have hnew : ¬ g.has a = true := by
    rw [has_eq_true_iff]
    have hnodup := h.nodup
    rw [List.map_append, List.nodup_append] at hnodup
    exact fun hmem => hnodup.2.2 a hmem a List.mem_cons_self rfl
  have haccepts : a.accepts value = true := h.accepts (a, value) (by simp)
  rw [add, if_neg hnew, if_pos haccepts]

theorem settle_of_pending_eq_none (h : g.pending = none) : g.settle = .ok g := by
  rw [settle, h]

theorem attached_eq_add (h : g.pending = none) : g.attached a value = g.add a value := by
  rw [attached, settle_of_pending_eq_none h]
  rfl

theorem flag_eq_add (h : g.pending = none) (hhelp : a ≠ .help) (hversion : a ≠ .version) :
    g.flag a = g.add a "" := by
  rw [flag, settle_of_pending_eq_none h]
  cases a with
  | help => exact absurd rfl hhelp
  | version => exact absurd rfl hversion
  | _ => rfl

/-- A long option with a value, in one word. -/
theorem longOption_valued {name : String} (hpending : g.pending = none)
    (hmem : a ∈ g.level.options) (hname : a.long? = some name) (htakes : a.takesValue = true) :
    g.longOption (name.toList ++ '=' :: value.toList) = g.add a value := by
  have hchars : ∀ c ∈ name.toList, decide (c ≠ '=') = true := by
    intro c hc
    rw [decide_eq_true_eq]
    rintro rfl
    exact Arg.notMem_toList_of_long? hname hc
  have htake : (name.toList ++ '=' :: value.toList).takeWhile (· ≠ '=') = name.toList := by
    rw [List.takeWhile_append_of_pos hchars]
    simp
  have hdrop : (name.toList ++ '=' :: value.toList).dropWhile (· ≠ '=') = '=' :: value.toList := by
    rw [List.dropWhile_append_of_pos hchars]
    simp
  rw [longOption, htake, hdrop, String.ofList_toList, Level.long?_of_mem hmem hname]
  dsimp only
  rw [if_pos htakes, String.ofList_toList, attached_eq_add hpending]

theorem longOption_force (hpending : g.pending = none) (hmem : .force ∈ g.level.options) :
    g.longOption "force".toList = g.add .force "" := by
  have hname : String.ofList ("force".toList.takeWhile (· ≠ '=')) = "force" := by decide
  have hrest : "force".toList.dropWhile (· ≠ '=') = [] := by decide
  have hflag : g.flag .force = g.add .force "" := flag_eq_add hpending (by decide) (by decide)
  rw [longOption, hname, hrest, Level.long?_of_mem hmem rfl]
  exact hflag

theorem shortOptions_verbose (hpending : g.pending = none) :
    g.shortOptions ['v'] = g.add .verbose "" := by
  rw [shortOptions, Level.short?_verbose]
  dsimp only
  rw [if_neg (by decide), flag_eq_add hpending (by decide) (by decide)]
  cases g.add .verbose "" with
  | ok g => rfl
  | error e => rfl

end Given

namespace Scan

variable {outer : List Given} {here : Given}

/-- A word that starts with a dash, where no value is waited for. -/
theorem step_dashed {word : String} {c : Char} {cs : List Char} (hpending : here.pending = none)
    (hword : word.toList = '-' :: c :: cs) :
    step (reading outer here false) word =
      if c ≠ '-' then (here.shortOptions (c :: cs)).map (reading outer · false)
      else if cs = [] then .ok (reading outer here true)
      else (here.longOption cs).map (reading outer · false) := by
  have hwaiting : here.isWaiting = false := by rw [Given.isWaiting, hpending]
  rw [step, hwaiting, Level.lookup_words_of_dash hword]
  dsimp only
  rw [asksHelp_of_dash hword, hword, if_neg (by decide)]
  by_cases hc : c = '-'
  · subst hc
    cases cs with
    | nil => rfl
    | cons c cs => rfl
  · simp [hc]

/-- A word with an option gives the option. -/
theorem step_option (hpending : here.pending = none) {p : Arg × String}
    (hp : OptionAt here.level p) :
    step (reading outer here false) (p.1.word p.2) =
      (here.add p.1 p.2).map (reading outer · false) := by
  cases hp with
  | verbose _ =>
    have hword : (Arg.verbose.word "").toList = '-' :: 'v' :: [] := by decide
    rw [step_dashed hpending hword, if_pos (by decide), Given.shortOptions_verbose hpending]
  | force hmem =>
    have hword : (Arg.force.word "").toList = '-' :: '-' :: "force".toList := by decide
    rw [step_dashed hpending hword, if_neg (by decide), if_neg (by decide),
      Given.longOption_force hpending hmem]
  | @valued a value hmem htakes _ =>
    obtain ⟨name, hname, hword⟩ := Arg.exists_toList_word htakes (Level.isSome_long? hmem) value
    rw [step_dashed hpending hword, if_neg (by decide), if_neg (by simp),
      Given.longOption_valued hpending hmem hname htakes]

/-- Words with options give the options. -/
theorem run_options (hpending : here.pending = none) {opts : List (Arg × String)}
    (hopts : ∀ p ∈ opts, OptionAt here.level p) (hargs : Givable (here.args ++ opts)) :
    (opts.map fun p => p.1.word p.2).foldlM step (reading outer here false) =
      .ok (reading outer { here with args := here.args ++ opts } false) := by
  induction opts generalizing here with
  | nil =>
    rw [List.append_nil]
    rfl
  | cons p opts ih =>
    obtain ⟨hp, hopts⟩ := List.forall_mem_cons.mp hopts
    have hsplit : here.args ++ p :: opts = here.args ++ [p] ++ opts := List.append_cons ..
    -- what is left is given on top of `p`
    rw [hsplit] at hargs ⊢
    have hrest := @ih { here with args := here.args ++ [p] } hpending hopts hargs
    rw [List.map_cons, List.foldlM_cons, step_option hpending hp,
      Given.add_of_givable hargs.of_append]
    exact hrest

/-- Words are taken one after another. -/
theorem run_append {s t u : Scan} {words more : List String} (hwords : words.foldlM step s = .ok t)
    (hmore : more.foldlM step t = .ok u) : (words ++ more).foldlM step s = .ok u := by
  rw [List.foldlM_append, hwords]
  exact hmore

/-! ### Levels -/

/-- A word that leads to a level is followed there. -/
theorem step_name (hpending : here.pending = none) {name : String} {below : Level}
    (hname : here.level.words.lookup name = some below) :
    step (reading outer here false) name =
      .ok (reading (here :: outer) ⟨below, [], none⟩ false) := by
  have hwaiting : here.isWaiting = false := by rw [Given.isWaiting, hpending]
  rw [step, hwaiting, hname]

end Scan

/-- Do `names` lead from the level `l` to the level `below`? -/
inductive Leads : Level → List String → Level → Prop
  | last {l below : Level} {name : String} (h : l.words.lookup name = some below) :
    Leads l [name] below
  | next {l between below : Level} {name : String} {names : List String}
    (h : l.words.lookup name = some between) (hnames : Leads between names below) :
    Leads l (name :: names) below

namespace Leads

open Scan

theorem of_mem_spellings {v : Verb} {names : List String} (h : names ∈ v.spellings) :
    Leads .root names (.verb v) := by
  cases v with
  | load | lint | printAs | formats =>
    obtain rfl := List.mem_singleton.mp h
    exact .last rfl
  | envGet | envSet | pathAdd | configInit | configPath =>
    obtain rfl := List.mem_singleton.mp h
    exact .next rfl (.last rfl)
  | envList | envRemove | pathList | pathRemove | pathMove =>
    rcases List.mem_pair.mp h with rfl | rfl
    · exact .next rfl (.last rfl)
    · exact .next rfl (.last rfl)

theorem positionals_eq_nil {l below : Level} {names : List String} (h : Leads l names below) :
    l.positionals = [] := by
  cases l with
  | verb v =>
    -- no word leads on from a verb
    cases h with
    | last h => exact absurd h (by simp [Level.words])
    | next h _ => exact absurd h (by simp [Level.words])
  | _ => rfl

/-- Words that lead to a level are followed there; nothing is given on the way. -/
theorem run {l below : Level} {names : List String} (h : Leads l names below)
    {outer : List Given} {here : Given} (hlevel : here.level = l) (hpending : here.pending = none) :
    ∃ between : List Given,
      (∀ g ∈ between, g.level.positionals = [] ∧ g.args = [] ∧ g.pending = none) ∧
      names.foldlM step (reading outer here false) =
        .ok (reading (between ++ here :: outer) ⟨below, [], none⟩ false) := by
  induction h generalizing outer here with
  | last hname =>
    refine ⟨[], by simp, ?_⟩
    rw [← hlevel] at hname
    rw [List.foldlM_cons, step_name hpending hname]
    rfl
  | @next l mid below name names hname hnames ih =>
    -- the level `mid` lies on the way: it is left behind for the levels below
    obtain ⟨between, hbetween, hrun⟩ := @ih (here :: outer) ⟨mid, [], none⟩ rfl rfl
    rw [← hlevel] at hname
    refine ⟨between ++ [⟨mid, [], none⟩], ?_, ?_⟩
    · intro g hg
      rcases List.mem_append.mp hg with hg | hg
      · exact hbetween g hg
      · obtain rfl := List.mem_singleton.mp hg
        exact ⟨hnames.positionals_eq_nil, rfl, rfl⟩
    · rw [List.foldlM_cons, step_name hpending hname, List.append_assoc]
      exact hrun

end Leads

/-! ### Positional arguments -/

/-- What was given at a verb with the options `opts` and then the positional
arguments `ps`: the last of these is still set aside. -/
def Given.holding (v : Verb) (opts ps : List (Arg × String)) : Given where
  level := .verb v
  args := opts ++ ps.dropLast
  pending := ps.getLast?.map fun p => ⟨p.1, some p.2⟩

namespace Given

variable {v : Verb} {opts ps : List (Arg × String)}

theorem holding_concat (p : Arg × String) :
    holding v opts (ps ++ [p]) = ⟨.verb v, opts ++ ps, some ⟨p.1, some p.2⟩⟩ := by
  simp [holding]

theorem settle_holding (h : Givable (opts ++ ps)) :
    (holding v opts ps).settle = .ok ⟨.verb v, opts ++ ps, none⟩ := by
  induction ps using List.reverseRecOn with
  | nil => rfl
  | append_singleton ps p _ =>
    rw [← List.append_assoc] at h ⊢
    rw [holding_concat]
    exact add_of_givable h

theorem placed_holding (hopts : ∀ p ∈ opts, p.1 ∉ v.positionals)
    (hps : ∀ p ∈ ps, p.1 ∈ v.positionals) : (holding v opts ps).placed = ps.length := by
  have hnone : opts.countP (fun p => v.positionals.contains p.1) = 0 := by
    rw [List.countP_eq_zero]
    intro p hp
    simpa using hopts p hp
  have hall : ∀ {qs : List (Arg × String)}, (∀ q ∈ qs, q.1 ∈ v.positionals) →
      qs.countP (fun p => v.positionals.contains p.1) = qs.length := by
    intro qs hqs
    rw [List.countP_eq_length]
    intro q hq
    simpa using hqs q hq
  induction ps using List.reverseRecOn with
  | nil =>
    show (opts ++ []).countP _ + 0 = 0
    rw [List.append_nil]
    exact hnone
  | append_singleton ps p _ =>
    have hp : v.positionals.contains p.1 = true := by simpa using hps p (by simp)
    -- all but the last are among the arguments, and the last is the one set aside
    rw [holding_concat, placed]
    show (opts ++ ps).countP (fun p => v.positionals.contains p.1) +
      (if v.positionals.contains p.1 = true then 1 else 0) = _
    rw [List.countP_append, hnone, hall fun q hq => hps q (by simp [hq]), if_pos hp,
      List.length_append, List.length_singleton]
    omega

end Given

namespace Scan

variable {outer : List Given} {v : Verb} {opts ps : List (Arg × String)}

/-- After a double dash, a word is the next positional argument. -/
theorem step_operand (hopts : ∀ p ∈ opts, p.1 ∉ v.positionals)
    (hps : ∀ p ∈ ps, p.1 ∈ v.positionals) (hargs : Givable (opts ++ ps)) {p : Arg × String}
    (hp : v.positionals[ps.length]? = some p.1) :
    step (reading outer (.holding v opts ps) true) p.2 =
      .ok (reading outer (.holding v opts (ps ++ [p])) true) := by
  have hpositional : (Given.holding v opts ps).positional p.2 =
      .ok (.holding v opts (ps ++ [p])) := by
    have hnext : (Given.holding v opts ps).level.positionals[(Given.holding v opts ps).placed]? =
        some p.1 := by
      rw [Given.placed_holding hopts hps]
      exact hp
    rw [Given.positional, hnext]
    dsimp only
    rw [Given.settle_holding hargs]
    simp [Given.holding, bind, Except.bind, pure, Except.pure]
  show ((Given.holding v opts ps).positional p.2).map (reading outer · true) = _
  rw [hpositional]
  rfl

/-- Words after a double dash are the positional arguments in their order. -/
theorem run_operands {rest : List (Arg × String)} (hopts : ∀ p ∈ opts, p.1 ∉ v.positionals)
    (hall : (ps ++ rest).map Prod.fst = v.positionals) (hargs : Givable (opts ++ (ps ++ rest))) :
    (rest.map Prod.snd).foldlM step (reading outer (.holding v opts ps) true) =
      .ok (reading outer (.holding v opts (ps ++ rest)) true) := by
  induction rest generalizing ps with
  | nil =>
    rw [List.append_nil]
    rfl
  | cons p rest ih =>
    -- `p` is set aside, and what was set aside before is settled
    have hsplit : ps ++ p :: rest = ps ++ [p] ++ rest := List.append_cons ..
    have hps : ∀ q ∈ ps, q.1 ∈ v.positionals := by
      intro q hq
      rw [← hall]
      exact List.mem_map_of_mem (List.mem_append_left _ hq)
    have hp : v.positionals[ps.length]? = some p.1 := by
      rw [← hall, List.map_append, List.getElem?_append_right (by simp)]
      simp
    have hheld : Givable (opts ++ ps) := by
      rw [← List.append_assoc] at hargs
      exact hargs.of_append
    rw [hsplit] at hall hargs ⊢
    rw [List.map_cons, List.foldlM_cons, step_operand hopts hps hheld hp]
    exact ih hall hargs

end Scan

/-! ### The end of the words -/

theorem Given.finish_holding {v : Verb} {opts ps : List (Arg × String)}
    (hargs : Givable (opts ++ ps)) (hall : ps.map Prod.fst = v.positionals) :
    (holding v opts ps).finish false = .ok ⟨.verb v, opts ++ ps, none⟩ := by
  have hgiven : v.positionals.all (Given.has ⟨.verb v, opts ++ ps, none⟩) = true := by
    rw [List.all_eq_true]
    intro a ha
    rw [has_eq_true_iff, List.map_append, hall]
    exact List.mem_append_right _ ha
  rw [finish, settle_holding hargs]
  exact if_pos hgiven

theorem Given.finish_of_positionals_eq_nil {g : Given} (hpositionals : g.level.positionals = [])
    (hpending : g.pending = none) : g.finish true = .ok g := by
  rw [finish, settle_of_pending_eq_none hpending]
  show (if (g.level.needsWord && !true) = true then _ else
    if g.level.positionals.all g.has = true then _ else _) = _
  rw [if_neg (by simp), hpositionals]
  rfl

theorem Scan.finish_reading {outer : List Given} {v : Verb} {opts ps : List (Arg × String)}
    (houter : ∀ g ∈ outer, g.level.positionals = [] ∧ g.pending = none)
    (hargs : Givable (opts ++ ps)) (hall : ps.map Prod.fst = v.positionals) (trailing : Bool) :
    (reading outer (.holding v opts ps) trailing).finish =
      .ok (⟨.verb v, opts ++ ps, none⟩ :: outer) := by
  have hfinished : outer.mapM (·.finish true) = .ok outer := by
    induction outer with
    | nil => rfl
    | cons g outer ih =>
      obtain ⟨⟨hpositionals, hpending⟩, houter⟩ := List.forall_mem_cons.mp houter
      rw [List.mapM_cons, Given.finish_of_positionals_eq_nil hpositionals hpending, ih houter]
      rfl
  rw [finish, Given.finish_holding hargs hall, hfinished]
  rfl

/-! ### Commands -/

/-- The options of a command stand in one order, none of them twice. -/
theorem options_sublist (c : Command) :
    (c.options.map Prod.fst).Sublist [.format, .position, .force] := by
  have hformat : ∀ format : Option String,
      ((format.map (Arg.format, ·)).toList.map Prod.fst).Sublist [.format] := by
    intro format
    cases format with
    | none => exact List.nil_sublist _
    | some f => exact .refl _
  cases c with
  | envSet _ _ _ format | envRemove _ _ format | pathRemove _ _ format
  | pathMove _ _ _ format | printAs _ format =>
    exact (hformat format).trans (List.sublist_append_left [Arg.format] [.position, .force])
  | pathAdd _ _ position format =>
    rw [options, List.map_append]
    exact (hformat format).append (List.sublist_append_left [Arg.position] [.force])
  | configInit force =>
    cases force with
    | false => exact List.nil_sublist _
    | true => exact List.sublist_append_right [Arg.format, .position] [.force]
  | _ => exact List.nil_sublist _

/-- So do all its arguments. -/
theorem arguments_sublist (c : Command) :
    ((c.options ++ c.placed).map Prod.fst).Sublist
      [.format, .position, .force, .file, .name, .value, .dir, .place] := by
  have hplaced : c.verb.positionals.Sublist [.file, .name, .value, .dir, .place] := by
    cases c.verb <;> decide
  rw [List.map_append, map_fst_placed]
  exact (options_sublist c).append hplaced

theorem accepts_placed {c : Command} (hfile : c.file? ≠ some "") :
    ∀ p ∈ c.placed, p.1.accepts p.2 = true := by
  cases c with
  | pathMove file dir position format =>
    have hne : file ≠ "" := by simpa [file?] using hfile
    simpa [placed, verb, Verb.positionals, operands, Arg.accepts, hne] using
      (accepts_name position).2
  | _ => simp_all [placed, verb, Verb.positionals, operands, Arg.accepts, file?]

theorem givable_arguments {c : Command} (hfile : c.file? ≠ some "") :
    Givable (c.options ++ c.placed) := by
  refine ⟨(arguments_sublist c).nodup (by decide), ?_⟩
  intro p hp
  rcases List.mem_append.mp hp with hp | hp
  · exact (optionAt_options c p hp).accepts
  · exact accepts_placed hfile p hp

/-- No argument of a command is one of those that all commands share. -/
theorem notMem_arguments (c : Command) {a : Arg} (ha : a = .config ∨ a = .verbose) :
    a ∉ (c.options ++ c.placed).map Prod.fst := by
  have hnot : a ∉ [Arg.format, .position, .force, .file, .name, .value, .dir, .place] := by
    rcases ha with rfl | rfl <;> decide
  exact fun hmem => hnot ((arguments_sublist c).subset hmem)

theorem givable_root {i : Invocation} (hconfig : i.config ≠ some "") : Givable i.options := by
  refine ⟨?_, fun p hp => (optionAt_root hconfig p hp).accepts⟩
  obtain ⟨command, config, verbose⟩ := i
  cases config <;> cases verbose <;> simp [Invocation.options]

/-- The operands of a command are taken for its positional arguments. -/
theorem Scan.run_tail {c : Command} (hargs : Givable (c.options ++ c.placed))
    (outer : List Given) :
    ∃ trailing,
      (if c.operands = [] then [] else "--" :: c.operands).foldlM step
          (reading outer ⟨.verb c.verb, c.options, none⟩ false) =
        .ok (reading outer (.holding c.verb c.options c.placed) trailing) := by
  have hstart : Given.holding c.verb c.options [] = ⟨.verb c.verb, c.options, none⟩ := by
    simp [Given.holding]
  rw [← hstart]
  split
  · -- without positional arguments there is no double dash
    rename_i hnone
    have hplaced : c.placed = [] := by rw [placed, hnone, List.zip_nil_right]
    rw [hplaced]
    exact ⟨false, rfl⟩
  · have hword : "--".toList = '-' :: '-' :: [] := by decide
    have hdashes : step (reading outer (.holding c.verb c.options []) false) "--" =
        .ok (reading outer (.holding c.verb c.options []) true) := by
      rw [step_dashed rfl hword, if_neg (by decide), if_pos rfl]
    have hopts : ∀ p ∈ c.options, p.1 ∉ c.verb.positionals := by
      intro p hp hmem
      have hnodup := hargs.nodup
      rw [List.map_append, map_fst_placed, List.nodup_append] at hnodup
      exact hnodup.2.2 p.1 (List.mem_map_of_mem hp) p.1 hmem rfl
    have hrun : (c.placed.map Prod.snd).foldlM step
        (reading outer (.holding c.verb c.options []) true) =
        .ok (reading outer (.holding c.verb c.options ([] ++ c.placed)) true) :=
      run_operands hopts (map_fst_placed c) hargs
    refine ⟨true, ?_⟩
    rw [List.foldlM_cons, hdashes, ← map_snd_placed]
    exact hrun

/-- What was given at all levels says what is asked for. -/
theorem ofGiven_arguments (i : Invocation) {between : List Given}
    (hbetween : ∀ g ∈ between, g.args = []) :
    ofGiven (⟨.verb i.command.verb, i.command.options ++ i.command.placed, none⟩ ::
      (between ++ [⟨.root, i.options, none⟩])) = .ok i := by
  have hcommand : ofVerb i.command.verb
      (Given.get? ⟨.verb i.command.verb, i.command.options ++ i.command.placed, none⟩) =
      i.command := ofVerb_arguments i.command
  -- what all commands share is given before the command only
  have hconfig : Given.get? ⟨.root, i.options, none⟩ .config = i.config := by
    obtain ⟨command, config, verbose⟩ := i
    cases config <;> cases verbose <;> rfl
  have hverbose : Given.has ⟨.root, i.options, none⟩ .verbose = i.verbose := by
    obtain ⟨command, config, verbose⟩ := i
    cases config <;> cases verbose <;> rfl
  have hget : ∀ g ∈ between, g.get? .config = none := by
    intro g hg
    rw [Given.get?, hbetween g hg]
    rfl
  have hhas : between.any (·.has .verbose) = false := by
    rw [List.any_eq_false]
    intro g hg
    rw [Given.has, hbetween g hg]
    simp
  have hget' : Given.get? ⟨.verb i.command.verb, i.command.options ++ i.command.placed, none⟩
      .config = none := by
    rw [Given.get?, List.lookup_eq_none_iff]
    intro p hp
    have hne : p.1 ≠ .config := fun h =>
      notMem_arguments i.command (.inl rfl) (h ▸ List.mem_map_of_mem hp)
    simpa using hne.symm
  have hhas' : Given.has ⟨.verb i.command.verb, i.command.options ++ i.command.placed, none⟩
      .verbose = false := by
    rw [Bool.eq_false_iff, ne_eq, Given.has_eq_true_iff]
    exact notMem_arguments i.command (.inr rfl)
  rw [ofGiven]
  dsimp only
  rw [hcommand, List.findSome?_cons, hget', List.findSome?_append,
    List.findSome?_eq_none_iff.mpr hget, List.any_cons, hhas', List.any_append, hhas]
  simp [hconfig, hverbose]

end Command

/-- **Every command can be spelled, and is understood as it is spelled.**  The
names, values, directories and formats may be any strings: empty ones, ones that
start with a dash or hold blanks or equals signs.  Only a file has to have a
name. -/
theorem Invocation.parse_spelling (i : Invocation) (hfile : i.command.file? ≠ some "")
    (hconfig : i.config ≠ some "") {names : List String}
    (hnames : names ∈ i.command.verb.spellings) :
    Invocation.parse (i.spelling names) = .ok i := by
  have hargs := Command.givable_arguments hfile
  have hroot : (i.options.map fun p => p.1.word p.2).foldlM Command.Scan.step .start =
      .ok (.reading [] ⟨.root, i.options, none⟩ false) :=
    Command.Scan.run_options rfl (Command.optionAt_root hconfig) (Command.givable_root hconfig)
  obtain ⟨between, hbetween, hlevels⟩ :=
    @Command.Leads.run _ _ _ (.of_mem_spellings hnames) [] ⟨.root, i.options, none⟩ rfl rfl
  have hoptions : (i.command.options.map fun p => p.1.word p.2).foldlM Command.Scan.step
      (.reading (between ++ [⟨.root, i.options, none⟩]) ⟨.verb i.command.verb, [], none⟩ false) =
      .ok (.reading (between ++ [⟨.root, i.options, none⟩])
        ⟨.verb i.command.verb, i.command.options, none⟩ false) :=
    Command.Scan.run_options rfl (Command.optionAt_options i.command) hargs.of_append
  obtain ⟨trailing, htail⟩ :=
    Command.Scan.run_tail hargs (between ++ [⟨.root, i.options, none⟩])
  have houter : ∀ g ∈ between ++ [⟨.root, i.options, none⟩],
      g.level.positionals = [] ∧ g.pending = none := by
    intro g hg
    rcases List.mem_append.mp hg with hg | hg
    · exact ⟨(hbetween g hg).1, (hbetween g hg).2.2⟩
    · obtain rfl := List.mem_singleton.mp hg
      exact ⟨rfl, rfl⟩
  have hfinish := Command.Scan.finish_reading houter hargs
    (Command.map_fst_placed i.command) trailing
  have hscan : (i.spelling names).foldlM Command.Scan.step .start =
      .ok (.reading (between ++ [⟨.root, i.options, none⟩])
        (.holding i.command.verb i.command.options i.command.placed) trailing) :=
    Command.Scan.run_append (Command.Scan.run_append (Command.Scan.run_append hroot hlevels)
      hoptions) htail
  rw [parse, hscan]
  show (Command.Scan.finish _ >>= _) = _
  rw [hfinish]
  exact Command.ofGiven_arguments i fun g hg => (hbetween g hg).2.1

/-- A file named like the double dash, an empty directory, a format and a
configuration with equals signs, and the short form of a verb. -/
theorem Invocation.parse_spelling_move :
    ["path", "mv"] ∈ Command.Verb.pathMove.spellings ∧
    Invocation.parse
      ["--config==c", "-v", "path", "mv", "--format=-x=y z", "--", "--", "", "append"] =
      .ok ⟨.pathMove "--" "" .append (some "-x=y z"), some "=c", true⟩ :=
  ⟨by decide,
    Invocation.parse_spelling ⟨.pathMove "--" "" .append (some "-x=y z"), some "=c", true⟩
      (by decide) (by decide) (by decide : ["path", "mv"] ∈ Command.Verb.pathMove.spellings)⟩

end Dotfile

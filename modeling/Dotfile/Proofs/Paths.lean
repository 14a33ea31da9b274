/-
What paths as text stand for.

A path is made absolute before a file is opened, and the name at its end shows
the shell that the file is for.  Paths are never normalised, so both are said of
the text as it is.

* `expandTilde_eq`, `join_of_not_isAbsolute` — a tilde and all slashes behind it
  give way to the home directory, which nothing that follows replaces;
* `resolve_settles` — so a path is made absolute once and for all;
* `pieces_append_slash`, `fileName?_of_last` — the last name of a path is found
  whatever stands before it, and behind slashes and dots;
* `extension?_eq_some_iff` — an extension is what follows the last dot;
* `detect?_of_last_name` — so the last name alone shows the shell.
-/
import Dotfile.Proofs.Files
import Dotfile.Proofs.Text
import Dotfile.Shell.Detect

namespace Dotfile

namespace Path

/-! ### Absolute paths -/

theorem isAbsolute_eq_false_iff {path : String} :
    isAbsolute path = false ↔ path.toList.head? ≠ some '/' := by
  simp [isAbsolute]

theorem join_of_isAbsolute (base : String) {path : String} (h : isAbsolute path = true) :
    join base path = path := by
  rw [join, if_pos h]

/-- What stands between a directory and a relative path that is joined to it. -/
def separator (base : String) : String :=
  if base.toList.getLast? = some '/' then "" else "/"

theorem join_of_not_isAbsolute {base path : String} (hbase : isAbsolute base = true)
    (hpath : isAbsolute path = false) : join base path = base ++ separator base ++ path := by
  have hne : base.toList.isEmpty = false := by
    cases hcs : base.toList with
    | nil => simp [isAbsolute, hcs] at hbase
    | cons c cs => rfl
  rw [join, hpath, hne, separator]
  by_cases hlast : base.toList.getLast? = some '/'
  · simp [hlast]
  · simp [hlast]

theorem expandTilde_of_isAbsolute (home : String) {path : String} (h : isAbsolute path = true) :
    expandTilde home path = path := by
  rw [isAbsolute, beq_iff_eq, List.head?_eq_some_iff] at h
  obtain ⟨cs, hcs⟩ := h
  simp [expandTilde, hcs]

theorem resolve_of_isAbsolute (home cwd : String) {path : String} (h : isAbsolute path = true) :
    resolve home cwd path = path := by
  rw [resolve, expandTilde_of_isAbsolute home h, join_of_isAbsolute cwd h]

/-- A text is some slashes and a rest that starts with none. -/
theorem exists_slashes_append (cs : List Char) :
    ∃ n, cs = List.replicate n '/' ++ cs.dropWhile (· == '/') := by
  have hslashes : ∀ c ∈ cs.takeWhile (· == '/'), c = '/' := by
    intro c hc
    simpa using List.mem_takeWhile_imp hc
  refine ⟨(cs.takeWhile (· == '/')).length, ?_⟩
  rw [← List.eq_replicate_of_mem hslashes]
  exact List.takeWhile_append_dropWhile.symm

theorem expandTilde_eq (home : String) {path : String} {cs : List Char}
    (h : path.toList = '~' :: cs) :
    expandTilde home path = join home (String.ofList (cs.dropWhile (· == '/'))) := by
  simp [expandTilde, h]

/-- **Paths are made absolute once and for all.**  For a user whose home and
working directory are absolute, a path is made absolute, and that changes it no
more.  A tilde in front stands for the home directory: what is left of the path
without the tilde and the slashes behind it is put behind the home directory,
with a slash between unless there is one, so the home directory is never left
out. -/
theorem resolve_settles {home cwd : String} (hhome : isAbsolute home = true)
    (hcwd : isAbsolute cwd = true) (path : String) :
    isAbsolute (resolve home cwd path) = true ∧
    resolve home cwd (resolve home cwd path) = resolve home cwd path ∧
    (path.toList.head? = some '~' → ∃ n rest,
      path = "~" ++ String.ofList (List.replicate n '/') ++ rest ∧ isAbsolute rest = false ∧
      resolve home cwd path = join home rest ∧
      resolve home cwd path = home ++ separator home ++ rest ∧
      home.toList <+: (resolve home cwd path).toList) := by
  have habsolute := isAbsolute_resolve home hcwd path
  refine ⟨habsolute, resolve_of_isAbsolute home cwd habsolute, ?_⟩
  intro htilde
  obtain ⟨cs, hcs⟩ := List.head?_eq_some_iff.mp htilde
  obtain ⟨n, hn⟩ := exists_slashes_append cs
  have hrest : isAbsolute (String.ofList (cs.dropWhile (· == '/'))) = false := by
    rw [isAbsolute_eq_false_iff, String.toList_ofList]
    intro hhead
    have hslash := Text.head_dropWhile (p := (· == '/')) cs '/' hhead
    simp at hslash
  have hjoin : resolve home cwd path = join home (String.ofList (cs.dropWhile (· == '/'))) := by
    rw [resolve, expandTilde_eq home hcs]
    exact join_of_isAbsolute cwd (isAbsolute_join hhome _)
  have hplain := hjoin.trans (join_of_not_isAbsolute hhome hrest)
  refine ⟨n, String.ofList (cs.dropWhile (· == '/')), ?_, hrest, hjoin, hplain, ?_⟩
  · rw [← String.toList_inj, hcs]
    simpa using hn
  · rw [hplain, String.append_assoc, String.toList_append]
    exact List.prefix_append _ _

/-- Slashes behind the tilde do not lead out of the home directory. -/
theorem resolve_settles_sample :
    isAbsolute "/home/me" = true ∧ isAbsolute "/w" = true ∧
    resolve "/home/me" "/w" "~///etc/zshrc" = "/home/me/etc/zshrc" ∧
    resolve "/home/me" "/w" (resolve "/home/me" "/w" "~///etc/zshrc") = "/home/me/etc/zshrc" ∧
    "/home/me".toList <+: (resolve "/home/me" "/w" "~///etc/zshrc").toList := by
  have hhome : isAbsolute "/home/me" = true := by decide
  have hcwd : isAbsolute "/w" = true := by decide
  have hpath : resolve "/home/me" "/w" "~///etc/zshrc" = "/home/me/etc/zshrc" := by decide +kernel
  obtain ⟨-, hagain, htilde⟩ := resolve_settles hhome hcwd "~///etc/zshrc"
  obtain ⟨-, -, -, -, -, -, hprefix⟩ := htilde (by decide +kernel)
  exact ⟨hhome, hcwd, hpath, hagain.trans hpath, hprefix⟩

/-! ### The last name of a path -/

theorem pieces_append_slash (xs ys : List Char) :
    pieces (xs ++ '/' :: ys) = pieces xs ++ pieces ys := by
  induction xs with
  | nil => simp [pieces]
  | cons x xs ih =>
    rw [List.cons_append, pieces, ih, pieces]
    split_ifs
    · rfl
    · -- the first piece is longer by `x`, and there is one
      cases hxs : pieces xs with
      | nil => exact absurd hxs (pieces_ne_nil xs)
      | cons p ps => rfl

theorem pieces_of_not_mem {cs : List Char} (h : '/' ∉ cs) : pieces cs = [cs] := by
  induction cs with
  | nil => rfl
  | cons c cs ih =>
    obtain ⟨hc, hcs⟩ := not_or.mp (mt List.mem_cons.mpr h)
    rw [pieces, if_neg (Ne.symm hc), ih hcs]

theorem named_append_idle (cs : List Char) {piece : List Char} (hslash : '/' ∉ piece)
    (h : isIdle piece = true) :
    (pieces (cs ++ '/' :: piece)).filter (!isIdle ·) = (pieces cs).filter (!isIdle ·) := by
  rw [pieces_append_slash, pieces_of_not_mem hslash, List.filter_append,
    List.filter_cons_of_neg (by simp [h]), List.filter_nil, List.append_nil]

/-- Slashes, and dots behind a slash, add no name. -/
theorem named_append_trail (cs : List Char) {trail : List String}
    (h : ∀ t ∈ trail, t = "/" ∨ t = "/.") :
    (pieces (cs ++ trail.flatMap String.toList)).filter (!isIdle ·) =
      (pieces cs).filter (!isIdle ·) := by
  induction trail generalizing cs with
  | nil => rw [List.flatMap_nil, List.append_nil]
  | cons t trail ih =>
    rw [List.flatMap_cons, ← List.append_assoc, ih _ fun s hs => h s (List.mem_cons_of_mem t hs)]
    rcases h t List.mem_cons_self with rfl | rfl
    · exact named_append_idle cs List.not_mem_nil rfl
    · have hdot : '/' ∉ ['.'] := by decide
      exact named_append_idle cs hdot rfl

/-- Is a text a name that a path can end with? -/
structure IsFileName (name : String) : Prop where
  no_slash : '/' ∉ name.toList
  ne_empty : name ≠ ""
  ne_dot : name ≠ "."
  ne_dots : name ≠ ".."

theorem IsFileName.named {name : String} (h : IsFileName name) :
    (pieces name.toList).filter (!isIdle ·) = [name.toList] := by
  have hidle : isIdle name.toList = false := by
    rw [isIdle_eq_false_iff]
    exact ⟨fun heq => h.ne_empty (String.toList_inj.mp heq),
      fun heq => h.ne_dot (String.toList_inj.mp heq)⟩
  rw [pieces_of_not_mem h.no_slash, List.filter_cons_of_pos (by simp [hidle]), List.filter_nil]

theorem fileName?_of_named {path name : String} {before : List (List Char)}
    (hname : name ≠ "..")
    (h : (pieces path.toList).filter (!isIdle ·) = before ++ [name.toList]) :
    fileName? path = some name := by
  have hdots : name.toList ≠ ['.', '.'] := fun heq => hname (String.toList_inj.mp heq)
  simp [fileName?, h, hdots]

theorem fileName?_of_last (dir : String) {name : String} (h : IsFileName name)
    {trail : List String} (htrail : ∀ t ∈ trail, t = "/" ∨ t = "/.") :
    fileName? (dir ++ "/" ++ name ++ String.join trail) = some name := by
  have hpath : (dir ++ "/" ++ name ++ String.join trail).toList =
      (dir.toList ++ '/' :: name.toList) ++ trail.flatMap String.toList := by
    simp [String.toList_join]
  apply fileName?_of_named h.ne_dots
  rw [hpath, named_append_trail _ htrail, pieces_append_slash, List.filter_append, h.named]

theorem IsFileName.fileName?_eq {name : String} (h : IsFileName name) :
    fileName? name = some name := by
  have hnamed : (pieces name.toList).filter (!isIdle ·) = [] ++ [name.toList] := h.named
  exact fileName?_of_named h.ne_dots hnamed

/-! ### Extensions -/

theorem splitLast?_eq_none_iff {c : Char} {cs : List Char} :
    splitLast? c cs = none ↔ c ∉ cs := by
  induction cs with
  | nil => simp [splitLast?]
  | cons d cs ih =>
    rw [splitLast?]
    cases hcs : splitLast? c cs with
    | some parts =>
      have hc : c ∈ cs := by
        by_contra hc
        exact absurd (hcs.symm.trans (ih.mpr hc)) (by simp)
      simp [hc]
    | none =>
      have hc : c ∉ cs := ih.mp hcs
      simp [hc, eq_comm]

theorem splitLast?_append {c : Char} (before : List Char) {rest : List Char} (h : c ∉ rest) :
    splitLast? c (before ++ c :: rest) = some (before, rest) := by
  induction before with
  | nil => simp [splitLast?, splitLast?_eq_none_iff.mpr h]
  | cons d before ih => rw [List.cons_append, splitLast?, ih]

theorem exists_of_splitLast? {c : Char} {cs before rest : List Char}
    (h : splitLast? c cs = some (before, rest)) : cs = before ++ c :: rest ∧ c ∉ rest := by
  induction cs generalizing before with
  | nil => simp [splitLast?] at h
  | cons d cs ih =>
    rw [splitLast?] at h
    cases hcs : splitLast? c cs with
    | some parts =>
      obtain ⟨first, last⟩ := parts
      rw [hcs] at h
      obtain ⟨rfl, rfl⟩ := Prod.mk.inj (Option.some.inj h)
      obtain ⟨rfl, hlast⟩ := ih hcs
      exact ⟨rfl, hlast⟩
    | none =>
      rw [hcs] at h
      obtain ⟨rfl, hparts⟩ := Option.ite_none_right_eq_some.mp h
      obtain ⟨rfl, rfl⟩ := Prod.mk.inj (Option.some.inj hparts)
      exact ⟨rfl, splitLast?_eq_none_iff.mp hcs⟩

/-- Is `ext` the text after the last dot of a name, where that dot is not the
first character of the name? -/
def HasExtension (name ext : String) : Prop :=
  '.' ∉ ext.toList ∧ ∃ stem, stem ≠ "" ∧ name = stem ++ "." ++ ext

theorem extension?_eq_some_iff {name ext : String} :
    extension? name = some ext ↔ HasExtension name ext := by
  constructor
  · intro h
    rw [extension?] at h
    cases hsplit : splitLast? '.' name.toList with
    | none => simp [hsplit] at h
    | some parts =>
      obtain ⟨before, rest⟩ := parts
      obtain ⟨hname, hrest⟩ := exists_of_splitLast? hsplit
      cases before with
      | nil => simp [hsplit] at h
      | cons c before =>
        obtain rfl : String.ofList rest = ext := by simpa [hsplit] using h
        refine ⟨by simpa using hrest, String.ofList (c :: before), ?_, ?_⟩
        · intro hempty
          simpa using congrArg String.toList hempty
        · rw [← String.toList_inj, hname]
          simp
  · rintro ⟨hext, stem, hstem, rfl⟩
    have hname : (stem ++ "." ++ ext).toList = stem.toList ++ '.' :: ext.toList := by simp
    rw [extension?, hname, splitLast?_append _ hext]
    cases hcs : stem.toList with
    | nil => exact absurd (String.toList_inj.mp hcs) hstem
    | cons c cs => simp

end Path

namespace Shell

/-! ### Shells -/

/-- Does one of the words stand anywhere in a name? -/
def Mentions (words : List String) (name : String) : Prop :=
  ∃ word ∈ words, word.toList <:+: name.toList

theorem any_isWithin_iff {words : List String} {name : String} :
    words.any (Text.isWithin · name) = true ↔ Mentions words name := by
  simp [Mentions, Text.isWithin, Text.occursIn_iff]

theorem ofExtension?_eq (ext : String) :
    ofExtension? ext =
      if Text.lower ext = "zsh" then some zsh
      else if Text.lower ext = "sh" ∨ Text.lower ext = "bash" then some bash
      else none := by
  rw [ofExtension?]
  split
  · rename_i h
    rw [if_pos h]
  · rename_i h
    rw [h, if_neg (by decide), if_pos (by decide)]
  · rename_i h
    rw [h, if_neg (by decide), if_pos (by decide)]
  · rename_i hzsh hsh hbash
    rw [if_neg hzsh, if_neg (not_or.mpr ⟨hsh, hbash⟩)]

theorem ofFileName?_of_zshNames {name : String} (h : Mentions zshNames name) :
    ofFileName? name = some zsh := by
  rw [ofFileName?, if_pos (any_isWithin_iff.mpr h)]

theorem ofFileName?_of_bashNames {name : String} (hzsh : ¬ Mentions zshNames name)
    (h : Mentions bashNames name) : ofFileName? name = some bash := by
  rw [ofFileName?, if_neg (mt any_isWithin_iff.mp hzsh), if_pos (any_isWithin_iff.mpr h)]

theorem ofFileName?_of_not_mentions {name : String} (hzsh : ¬ Mentions zshNames name)
    (hbash : ¬ Mentions bashNames name) :
    ofFileName? name = (Path.extension? name).bind ofExtension? := by
  rw [ofFileName?, if_neg (mt any_isWithin_iff.mp hzsh), if_neg (mt any_isWithin_iff.mp hbash)]

/-- **The last name of a path shows the shell.**  Whatever stands before it, and
behind it of slashes and of dots behind slashes, a path is for the shell that the
name alone shows: zsh if a word of zsh's stands in it, else bash if a word of
bash's does, and else the shell of its extension, case aside, if it has one that
stands for a shell. -/
theorem detect?_of_last_name (dir : String) {name : String} (h : Path.IsFileName name)
    {trail : List String} (htrail : ∀ t ∈ trail, t = "/" ∨ t = "/.") :
    detect? (dir ++ "/" ++ name ++ String.join trail) = detect? name ∧
    (Mentions ["zshrc", "zprofile", "zshenv", "zlogin"] name → detect? name = some zsh) ∧
    (¬ Mentions ["zshrc", "zprofile", "zshenv", "zlogin"] name →
      (Mentions ["bashrc", "bash_profile", "bash_aliases"] name → detect? name = some bash) ∧
      (¬ Mentions ["bashrc", "bash_profile", "bash_aliases"] name →
        (∀ ext, Path.HasExtension name ext → detect? name =
          if Text.lower ext = "zsh" then some zsh
          else if Text.lower ext = "sh" ∨ Text.lower ext = "bash" then some bash
          else none) ∧
        ((∀ ext, ¬ Path.HasExtension name ext) → detect? name = none))) := by
  have hdetect : detect? name = ofFileName? name := by
    rw [detect?, h.fileName?_eq, Option.bind_some]
  refine ⟨?_, ?_, ?_⟩
  · rw [hdetect, detect?, Path.fileName?_of_last dir h htrail, Option.bind_some]
  · intro hzsh
    exact hdetect.trans (ofFileName?_of_zshNames hzsh)
  · intro hzsh
    refine ⟨fun hbash => hdetect.trans (ofFileName?_of_bashNames hzsh hbash), fun hbash => ?_⟩
    rw [hdetect, ofFileName?_of_not_mentions hzsh hbash]
    constructor
    · intro ext hext
      rw [Path.extension?_eq_some_iff.mpr hext, Option.bind_some, ofExtension?_eq]
    · intro hnone
      have hext : Path.extension? name = none := by
        rw [Option.eq_none_iff_forall_ne_some]
        exact fun ext heq => hnone ext (Path.extension?_eq_some_iff.mp heq)
      rw [hext, Option.bind_none]

/-- A directory that is named for zsh does not matter, and slashes and dots at the
end do not either. -/
theorem detect?_of_last_name_sample :
    Path.IsFileName "setup.BASH" ∧
    detect? "/x/.zshrc/setup.BASH/.//" = detect? "setup.BASH" ∧
    detect? "setup.BASH" = some bash := by
  have hname : Path.IsFileName "setup.BASH" :=
    ⟨by decide +kernel, by decide, by decide, by decide⟩
  have htrail : ∀ t ∈ ["/.", "/", "/"], t = "/" ∨ t = "/." := by decide
  have hzsh : ¬ Mentions ["zshrc", "zprofile", "zshenv", "zlogin"] "setup.BASH" := by
    rw [← any_isWithin_iff]
    decide +kernel
  have hbash : ¬ Mentions ["bashrc", "bash_profile", "bash_aliases"] "setup.BASH" := by
    rw [← any_isWithin_iff]
    decide +kernel
  have hext : Path.HasExtension "setup.BASH" "BASH" :=
    ⟨by decide +kernel, "setup", by decide, by decide +kernel⟩
  have hlower : Text.lower "BASH" = "bash" := by decide +kernel
  obtain ⟨hlast, -, hother⟩ := detect?_of_last_name "/x/.zshrc" hname htrail
  have hshell := ((hother hzsh).2 hbash).1 "BASH" hext
  rw [hlower, if_neg (by decide), if_pos (by decide)] at hshell
  exact ⟨hname, hlast, hshell⟩

end Shell

end Dotfile

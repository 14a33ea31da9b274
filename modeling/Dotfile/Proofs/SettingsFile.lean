/-
The settings file, written and read back.

* `readValue_quoted`, `readValue_listed` — strings and lists of strings come back
  as values;
* `Document` — what the lines of a text state, and `parse?_of_document`: the
  reader's fuel is enough for them;
* `document_toml` — what the settings file states;
* `Settings.ofToml_toml` — reading it gives the settings that were written;
* `Settings.survive_save` — the same through a file that is saved and loaded.
-/
import Dotfile.Proofs.Files
import Dotfile.Proofs.Quoting
import Dotfile.Proofs.Text
import Dotfile.World

namespace Dotfile.Toml

/-! ### Values -/

theorem unquoted_cons {c : Char} (hdouble : c ≠ '"') (hsingle : c ≠ '\x27') (cs : List Char) :
    Unquoted (c :: cs) := by
  intro d hd
  obtain rfl : c = d := by simpa using hd
  exact ⟨hdouble, hsingle⟩

/-- A written string starts with a quote, so it is no array and no inline table. -/
theorem readValue_quoted (depth : Nat) (s : String) {rest : List Char} (hrest : Unquoted rest) :
    readValue depth ((quoted s).toList ++ rest) = some (.string s, rest) := by
  have hscalar : readScalar? ((quoted s).toList ++ rest) = some (.string s, rest) := by
    rw [readScalar?, readString?_quoted s hrest, Option.map_some, Option.some_or]
    dsimp only
    rw [String.ofList_toList]
  cases depth with
  | zero => exact hscalar
  | succ depth =>
    obtain ⟨q, cs, heq, hq⟩ := exists_quoted_eq_cons s
    rw [heq] at hscalar ⊢
    rcases hq with rfl | rfl
    · exact hscalar
    · exact hscalar

theorem skipTrivia_quoted (s : String) (rest : List Char) :
    skipTrivia false ((quoted s).toList ++ rest) = (quoted s).toList ++ rest := by
  obtain ⟨q, cs, heq, hq⟩ := exists_quoted_eq_cons s
  rw [heq]
  rcases hq with rfl | rfl
  · rfl
  · rfl

theorem quoted_append_ne (s : String) (cs rest : List Char) :
    (quoted s).toList ++ cs ≠ ']' :: rest := by
  obtain ⟨q, text, heq, hq⟩ := exists_quoted_eq_cons s
  rw [heq]
  rintro h
  rcases hq with rfl | rfl
  · exact absurd (List.cons.inj h).1 (by decide)
  · exact absurd (List.cons.inj h).1 (by decide)

/-- One item of an array, with a comma and other items after it or with the end. -/
theorem readItems_quoted {depth fuel : Nat} {cs rest left : List Char} {s : String} {c : Char}
    {items : List Item} (hcs : skipTrivia false cs = (quoted s).toList ++ c :: rest)
    (hc : c = ',' ∧ readItems (readValue depth) fuel rest = some (items, left) ∨
      c = ']' ∧ items = [] ∧ left = rest) :
    readItems (readValue depth) (fuel + 1) cs = some (.string s :: items, left) := by
  have hrest : Unquoted (c :: rest) := by
    rcases hc with ⟨rfl, -⟩ | ⟨rfl, -⟩
    · exact unquoted_cons (by decide) (by decide) rest
    · exact unquoted_cons (by decide) (by decide) rest
  have hvalue := readValue_quoted depth s hrest
  rw [readItems, hcs]
  split
  · rename_i heq
    exact absurd heq (quoted_append_ne s _ _)
  · rcases hc with ⟨rfl, hmore⟩ | ⟨rfl, rfl, rfl⟩
    · rw [hvalue]
      show (readItems (readValue depth) fuel rest).map _ = _
      rw [hmore, Option.map_some]
    · rw [hvalue]
      rfl

/-- The lines of a list with several items. -/
def itemLines (items : List String) : List Char :=
  items.flatMap fun s => [' ', ' ', ' ', ' '] ++ (quoted s).toList ++ [',', '\n']

theorem readItems_itemLines (depth : Nat) (items : List String) (rest : List Char) {fuel : Nat}
    (hfuel : (itemLines items).length < fuel) :
    readItems (readValue depth) fuel ('\n' :: (itemLines items ++ ']' :: rest)) =
      some (items.map .string, rest) := by
  induction items generalizing fuel with
  | nil =>
    obtain ⟨n, rfl⟩ : ∃ n, fuel = n + 1 := ⟨fuel - 1, by omega⟩
    rfl
  | cons s items ih =>
    obtain ⟨n, rfl⟩ : ∃ n, fuel = n + 1 := ⟨fuel - 1, by omega⟩
    have hlines : itemLines (s :: items) =
        [' ', ' ', ' ', ' '] ++ (quoted s).toList ++ [',', '\n'] ++ itemLines items := rfl
    have hskip : skipTrivia false ('\n' :: (itemLines (s :: items) ++ ']' :: rest)) =
        (quoted s).toList ++ ',' :: '\n' :: (itemLines items ++ ']' :: rest) := by
      rw [← skipTrivia_quoted, hlines]
      simp [skipTrivia]
    -- the newline after the comma is the one in front of the other lines
    have hmore : readItems (readValue depth) n ('\n' :: (itemLines items ++ ']' :: rest)) =
        some (items.map .string, rest) := by
      refine ih ?_
      rw [hlines] at hfuel
      simp only [List.length_append, List.length_cons] at hfuel
      omega
    exact readItems_quoted hskip (.inl ⟨rfl, hmore⟩)

theorem toList_listed_of_two_le {items : List String} (h : 2 ≤ items.length) :
    (listed items).toList = '[' :: '\n' :: (itemLines items ++ [']']) := by
  match items with
  | s :: t :: items =>
    rw [listed]
    · simp only [String.toList_append, String.toList_join, List.flatMap_map]
      rfl
    · simp
    · simp

theorem readValue_listed (depth : Nat) (items : List String) (rest : List Char) :
    readValue (depth + 1) ((listed items).toList ++ rest) =
      some (.array (items.map .string), rest) := by
  match items with
  | [] => rfl
  | [s] =>
    have htext : (listed [s]).toList ++ rest = '[' :: ((quoted s).toList ++ ']' :: rest) := by
      simp [listed]
    rw [htext, readValue, readItems_quoted (skipTrivia_quoted s _) (.inr ⟨rfl, rfl, rfl⟩)]
    rfl
  | s :: t :: items =>
    have htext : (listed (s :: t :: items)).toList ++ rest =
        '[' :: '\n' :: (itemLines (s :: t :: items) ++ ']' :: rest) := by
      rw [toList_listed_of_two_le (by simp)]
      simp
    rw [htext, readValue, readItems_itemLines]
    · rfl
    · simp only [List.length_cons, List.length_append]
      omega

/-! ### Keys -/

/-- A key that needs no quotes. -/
structure BareKey (key : String) : Prop where
  ne_nil : key.toList ≠ []
  bare : key.toList.all isBareKeyChar = true

theorem ne_of_isBareKeyChar {c d : Char} (hc : isBareKeyChar c = true)
    (hd : isBareKeyChar d = false) : c ≠ d := by
  rintro rfl
  rw [hc] at hd
  exact absurd hd (by decide)

namespace BareKey

variable {key : String}

theorem exists_cons (h : BareKey key) :
    ∃ c cs, key.toList = c :: cs ∧ isBareKeyChar c = true := by
  obtain ⟨c, cs, heq⟩ := List.exists_cons_of_ne_nil h.ne_nil
  exact ⟨c, cs, heq, List.all_eq_true.mp h.bare c (by simp [heq])⟩

theorem append_ne (h : BareKey key) (cs rest : List Char) : key.toList ++ cs ≠ '[' :: rest := by
  obtain ⟨c, cs', heq, hc⟩ := h.exists_cons
  rw [heq]
  intro hcons
  exact ne_of_isBareKeyChar hc (by decide) (List.cons.inj hcons).1

theorem skipSpace_append (h : BareKey key) (rest : List Char) :
    skipSpace (key.toList ++ rest) = key.toList ++ rest := by
  obtain ⟨c, cs, heq, hc⟩ := h.exists_cons
  have hspace : c ≠ ' ' := ne_of_isBareKeyChar hc (by decide)
  have htab : c ≠ '\t' := ne_of_isBareKeyChar hc (by decide)
  rw [heq, List.cons_append, skipSpace, List.dropWhile_cons_of_neg]
  simp [hspace, htab]

theorem isIdleLine_append (h : BareKey key) (cs : List Char) :
    isIdleLine (key.toList ++ cs) = false := by
  obtain ⟨c, cs', heq, hc⟩ := h.exists_cons
  have hhash : c ≠ '#' := ne_of_isBareKeyChar hc (by decide)
  have hfeed : c ≠ '\n' := ne_of_isBareKeyChar hc (by decide)
  have hreturn : c ≠ '\r' := ne_of_isBareKeyChar hc (by decide)
  rw [heq, List.cons_append, isIdleLine]
  simp [hhash, hfeed, hreturn]

theorem readLineString?_append (h : BareKey key) (rest : List Char) :
    readLineString? (key.toList ++ rest) = none := by
  obtain ⟨c, cs, heq, hc⟩ := h.exists_cons
  rw [heq, List.cons_append, readLineString?]
  · intro cs' h'
    exact ne_of_isBareKeyChar hc (by decide) (List.cons.inj h').1
  · intro cs' h'
    exact ne_of_isBareKeyChar hc (by decide) (List.cons.inj h').1

/-- The key ends where a character follows that is not in it; no dot adds a part. -/
theorem readKey?_append (h : BareKey key) (fuel : Nat) {c d : Char} {cs rest : List Char}
    (hc : isBareKeyChar c = false) (hskip : skipSpace (c :: cs) = d :: rest) (hd : d ≠ '.') :
    readKey? (fuel + 1) (key.toList ++ c :: cs) = some ([key], d :: rest) := by
  have hspan : (key.toList ++ c :: cs).takeWhile isBareKeyChar = key.toList :=
    (Text.span_append (List.all_eq_true.mp h.bare) (by simpa using hc)).1
  have hpart : readKeyPart? (key.toList ++ c :: cs) = some (key, c :: cs) := by
    rw [readKeyPart?, h.readLineString?_append, hspan]
    dsimp only
    rw [if_neg (by simpa using h.ne_nil), List.drop_left, String.ofList_toList]
  rw [readKey?, h.skipSpace_append, hpart]
  dsimp only
  rw [hskip]
  split
  · rename_i heq
    exact absurd (List.cons.inj heq).1 hd
  · rfl

end BareKey

/-! ### Statements -/

/-- The line with the header of a table, before the lines `text`. -/
def headerLine (key : String) (text : List Char) : List Char :=
  '[' :: (key.toList ++ ']' :: '\n' :: text)

/-- The line with a key and its value, before the lines `text`. -/
def pairLine (key : String) (value text : List Char) : List Char :=
  key.toList ++ ' ' :: '=' :: ' ' :: (value ++ '\n' :: text)

variable {text : List Char} {statements : List Statement} {key : String}

theorem readStatement?_headerLine (h : BareKey key) (text : List Char) :
    readStatement? (headerLine key text) = some (.header [key], '\n' :: text) := by
  have hkey : readKey? (nestingLimit - 1) (key.toList ++ ']' :: '\n' :: text) =
      some ([key], ']' :: '\n' :: text) :=
    h.readKey?_append (nestingLimit - 2) (by decide) rfl (by decide)
  show readHeader? (key.toList ++ ']' :: '\n' :: text) = _
  rw [readHeader?, hkey]
  · rfl
  · exact fun cs => h.append_ne _ cs

theorem readStatement?_pairLine (h : BareKey key) {value : List Char} {item : Item}
    (hspace : skipSpace (value ++ '\n' :: text) = value ++ '\n' :: text)
    (hvalue : readValue (nestingLimit - 1) (value ++ '\n' :: text) = some (item, '\n' :: text)) :
    readStatement? (pairLine key value text) = some (.pair [key] item, '\n' :: text) := by
  have hkey : readKey? (nestingLimit - 1) (pairLine key value text) =
      some ([key], '=' :: ' ' :: (value ++ '\n' :: text)) :=
    h.readKey?_append (nestingLimit - 2) (by decide) rfl (by decide)
  have hskip : skipSpace (' ' :: (value ++ '\n' :: text)) = value ++ '\n' :: text := hspace
  have hpair : readPair (readValue (nestingLimit - 1)) (pairLine key value text) =
      some (([key], item), '\n' :: text) := by
    rw [readPair, hkey]
    show (readValue (nestingLimit - 1) (skipSpace (' ' :: (value ++ '\n' :: text)))).map _ = _
    rw [hskip, hvalue]
    rfl
  rw [readStatement?, hpair]
  · rfl
  · exact fun cs => h.append_ne _ cs

/-- Do the lines of `text` make these statements? -/
inductive Document : (text : List Char) → List Statement → Prop where
  | nil : Document [] []
  | blank {text : List Char} {statements : List Statement} (h : Document text statements) :
    Document ('\n' :: text) statements
  | line {cs text : List Char} {s : Statement} {statements : List Statement}
    (hspace : skipSpace cs = cs) (hidle : isIdleLine cs = false)
    (hs : readStatement? cs = some (s, '\n' :: text)) (hlength : text.length < cs.length)
    (h : Document text statements) : Document cs (s :: statements)

theorem readStatements_of_document (h : Document text statements) {fuel : Nat}
    (hfuel : text.length < fuel) : readStatements fuel text = some statements := by
  induction h generalizing fuel with
  | nil =>
    obtain ⟨n, rfl⟩ : ∃ n, fuel = n + 1 := ⟨fuel - 1, by omega⟩
    rfl
  | blank h ih =>
    obtain ⟨n, rfl⟩ : ∃ n, fuel = n + 1 := ⟨fuel - 1, by omega⟩
    exact ih (by simpa using hfuel)
  | @line cs text s statements hspace hidle hs hlength h ih =>
    obtain ⟨n, rfl⟩ : ∃ n, fuel = n + 1 := ⟨fuel - 1, by omega⟩
    have hend : endLine? ('\n' :: text) = some text := rfl
    rw [readStatements, hspace]
    split
    · exact absurd hidle (by decide)
    · rw [hidle, hs]
      dsimp only
      rw [hend]
      dsimp only
      rw [ih (by omega)]
      rfl

theorem Document.header (hkey : BareKey key) (h : Document text statements) :
    Document (headerLine key text) (.header [key] :: statements) := by
  refine .line rfl rfl (readStatement?_headerLine hkey text) ?_ h
  simp only [headerLine, List.length_cons, List.length_append]
  omega

theorem Document.pair {value : List Char} {item : Item} (hkey : BareKey key)
    (hspace : skipSpace (value ++ '\n' :: text) = value ++ '\n' :: text)
    (hvalue : readValue (nestingLimit - 1) (value ++ '\n' :: text) = some (item, '\n' :: text))
    (h : Document text statements) :
    Document (pairLine key value text) (.pair [key] item :: statements) := by
  refine .line (hkey.skipSpace_append _) (hkey.isIdleLine_append _)
    (readStatement?_pairLine hkey hspace hvalue) ?_ h
  simp only [pairLine, List.length_cons, List.length_append]
  omega

theorem skipSpace_quoted (s : String) (rest : List Char) :
    skipSpace ((quoted s).toList ++ rest) = (quoted s).toList ++ rest := by
  obtain ⟨q, cs, heq, hq⟩ := exists_quoted_eq_cons s
  rw [heq]
  rcases hq with rfl | rfl
  · rfl
  · rfl

theorem Document.pair_quoted (hkey : BareKey key) (s : String) (h : Document text statements) :
    Document (pairLine key (quoted s).toList text) (.pair [key] (.string s) :: statements) := by
  have hrest : Unquoted ('\n' :: text) := unquoted_cons (by decide) (by decide) text
  exact .pair hkey (skipSpace_quoted s _) (readValue_quoted _ s hrest) h

theorem exists_listed_eq_cons (items : List String) : ∃ cs, (listed items).toList = '[' :: cs := by
  match items with
  | [] => exact ⟨[']'], rfl⟩
  | [s] => exact ⟨(quoted s).toList ++ [']'], by simp [listed]⟩
  | s :: t :: items => exact ⟨_, toList_listed_of_two_le (by simp)⟩

theorem Document.pair_listed (hkey : BareKey key) (items : List String)
    (h : Document text statements) :
    Document (pairLine key (listed items).toList text)
      (.pair [key] (.array (items.map .string)) :: statements) := by
  refine .pair hkey ?_ (readValue_listed (nestingLimit - 2) items _) h
  obtain ⟨cs, heq⟩ := exists_listed_eq_cons items
  rw [heq]
  rfl

/-- A text that does not start with a byte order mark is read line by line. -/
theorem parse?_of_document {text : String} (h : Document text.toList statements)
    (hmark : '\ufeff' ∉ text.toList.head?) :
    parse? text = Table.ofStatements? statements := by
  have hdrop : Text.dropOne '\ufeff' text.toList = text.toList := by
    cases hcs : text.toList with
    | nil => rfl
    | cons c cs =>
      rw [hcs] at hmark
      have hc : c ≠ '\ufeff' := fun hc => hmark (by simp [hc])
      simp [Text.dropOne, hc]
  rw [parse?, hdrop, readStatements_of_document h (by omega), Option.bind_some]

end Dotfile.Toml

namespace Dotfile.Settings

open Toml

/-- What the settings file states. -/
def statements (s : Settings) : List Statement :=
  [.header ["format"], .pair ["default"] (.string s.format.default),
    .header ["lint"], .pair ["disabled"] (.array (s.lint.disabled.map .string)),
    .pair ["fail_on"] (.string s.lint.failOn.name),
    .header ["log"], .pair ["level"] (.string s.log.level)]

/-- The settings as a table of tables. -/
def table (s : Settings) : Table :=
  [("format", .table .header [("default", .string s.format.default)]),
    ("lint", .table .header [("disabled", .array (s.lint.disabled.map .string)),
      ("fail_on", .string s.lint.failOn.name)]),
    ("log", .table .header [("level", .string s.log.level)])]

theorem toList_toml (s : Settings) :
    s.toml.toList =
      headerLine "format" (pairLine "default" (quoted s.format.default).toList ('\n' ::
        headerLine "lint" (pairLine "disabled" (listed s.lint.disabled).toList
          (pairLine "fail_on" (quoted s.lint.failOn.name).toList ('\n' ::
            headerLine "log" (pairLine "level" (quoted s.log.level).toList [])))))) := by
  -- the pieces of text between the values, cut into lines
  have hdefault (cs : List Char) : "[format]\ndefault = ".toList ++ cs =
      '[' :: ("format".toList ++ ']' :: '\n' :: ("default".toList ++ ' ' :: '=' :: ' ' :: cs)) := rfl
  have hdisabled (cs : List Char) : "\n\n[lint]\ndisabled = ".toList ++ cs =
      '\n' :: '\n' :: '[' :: ("lint".toList ++ ']' :: '\n' ::
        ("disabled".toList ++ ' ' :: '=' :: ' ' :: cs)) := rfl
  have hfailOn (cs : List Char) : "\nfail_on = ".toList ++ cs =
      '\n' :: ("fail_on".toList ++ ' ' :: '=' :: ' ' :: cs) := rfl
  have hlevel (cs : List Char) : "\n\n[log]\nlevel = ".toList ++ cs =
      '\n' :: '\n' :: '[' :: ("log".toList ++ ']' :: '\n' ::
        ("level".toList ++ ' ' :: '=' :: ' ' :: cs)) := rfl
  have hend : "\n".toList = ['\n'] := rfl
  -- `delta`, since the equation of `toml` with its long literals is slow to make
  delta toml
  simp only [String.toList_append, List.append_assoc, List.cons_append, hdefault, hdisabled, hfailOn,
    hlevel, hend, headerLine, pairLine]

theorem document_toml (s : Settings) : Document s.toml.toList s.statements := by
  rw [toList_toml]
  refine .header ⟨by decide, by decide⟩ (.pair_quoted ⟨by decide, by decide⟩ _ (.blank ?_))
  refine .header ⟨by decide, by decide⟩ (.pair_listed ⟨by decide, by decide⟩ _ ?_)
  refine .pair_quoted ⟨by decide, by decide⟩ _ (.blank ?_)
  exact .header ⟨by decide, by decide⟩ (.pair_quoted ⟨by decide, by decide⟩ _ .nil)

theorem ofStatements?_statements (s : Settings) :
    Table.ofStatements? s.statements = some s.table := rfl

theorem readStrings_map (items : List String) :
    readStrings (.array (items.map .string)) = .ok items := by
  show (items.map Item.string).mapM readString = .ok items
  induction items with
  | nil => rfl
  | cons s items ih =>
    rw [List.map_cons, List.mapM_cons, ih]
    rfl

theorem readSeverity_name (severity : Lint.Severity) :
    readSeverity (.string severity.name) = .ok severity := by
  rw [readSeverity, readSeverityName, Lint.Severity.ofExactName?_name]

theorem readLint_table (lint : LintSettings) :
    readLint (.table .header [("disabled", .array (lint.disabled.map .string)),
      ("fail_on", .string lint.failOn.name)]) = .ok lint := by
  simp only [readLint, readRecord, List.foldlM_cons, List.foldlM_nil, readStrings_map,
    readSeverity_name]
  rfl

theorem ofTable_table (s : Settings) : ofTable s.table = .ok s := by
  have hformat : readFormat (.table .header [("default", .string s.format.default)]) =
      .ok s.format := rfl
  have hlog : readLog (.table .header [("level", .string s.log.level)]) = .ok s.log := rfl
  have hlint := readLint_table s.lint
  simp only [ofTable, table, List.foldlM_cons, List.foldlM_nil, set, hformat, hlog, hlint]
  rfl

/-- Settings that were written are read back. -/
theorem ofToml_toml (s : Settings) : ofToml s.toml = .ok s := by
  have hmark : '\ufeff' ∉ s.toml.toList.head? := by
    rw [toList_toml]
    simp [headerLine]
  rw [ofToml, parse?_of_document s.document_toml hmark, ofStatements?_statements]
  dsimp only
  rw [ofTable_table]

end Dotfile.Settings

namespace Dotfile

theorem fromUTF8?_toUTF8 (text : String) : String.fromUTF8? text.toUTF8 = some text := by
  rw [String.fromUTF8?]
  exact dif_pos text.isValidUTF8

theorem World.readSettings_of_file {w : World} {path : String} {s : Settings}
    (h : w.find? path = some (.file s.toml.toUTF8)) : w.readSettings path = .ok s := by
  rw [readSettings, h]
  dsimp only
  rw [fromUTF8?_toUTF8]
  dsimp only
  rw [Settings.ofToml_toml]

/-- **Settings survive a save and a load.**  Whatever their strings are, the text
of the settings file means them, and a file that it was saved to is read as them. -/
theorem Settings.survive_save (s : Settings) :
    ofToml s.toml = .ok s ∧
      ∀ (w : World) (path : String), (w.files.save w.location path s.toml.toUTF8).error = none →
        ({ w with files := (w.files.save w.location path s.toml.toUTF8).files } : World).readSettings
          path = .ok s := by
  refine ⟨s.ofToml_toml, ?_⟩
  intro w path hsaved
  exact World.readSettings_of_file (FileSystem.find?_save hsaved)

/-- Quotes of both kinds, a backslash, control characters, a newline in front and
quotes at the end; the directory of the file is made. -/
theorem Settings.survive_save_sample :
    let s : Settings :=
      { format := ⟨"\"\"\"'''\\\n\r"⟩
        lint := ⟨["", "it's", "\t\x7f"], .warning⟩
        log := ⟨"\n\"\""⟩ }
    let w : World := { files := {}, home := "/h", cwd := "/" }
    let saved := w.files.save w.location "a/b" s.toml.toUTF8
    saved.error = none ∧
      ({ w with files := saved.files } : World).readSettings "a/b" = .ok s := by
  intro s w saved
  have hsaved : saved.error = none := by decide +kernel
  exact ⟨hsaved, s.survive_save.2 w "a/b" hsaved⟩

end Dotfile

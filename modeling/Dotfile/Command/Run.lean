/-
Carrying out a command.

Commands that change a file read it, edit what they read and write it back;
whatever can fail comes before the file is written.

* **`withConfig`** — reading a startup file;
* **`saveConfig`** — writing one;
* **`Command.run`** — a command.
-/
import Dotfile.Command
import Dotfile.Config.Reader
import Dotfile.Context
import Dotfile.Report
import Dotfile.Shell.Detect
import Dotfile.World

namespace Dotfile

/-- Carries on with the path and the configuration of a file, if it can be read. -/
def withConfig (w : World) (file : String) (next : String → Config → Outcome) : Outcome :=
  let path := w.resolve file
  match w.read path with
  | .error f => w.fail f
  | .ok text =>
    let config := Config.parse text path
    (next path config).loggedBefore [parsedEvent path config.summary]

/-- The formatter for a file: that of the format asked for, or else of the shell
that the file's name shows, or else the default one. -/
def Context.formatterFor (ctx : Context) (path : String) (format : Option String) :
    Except UnknownFormat Formatter :=
  ctx.registry.get (Shell.formatFor? format (some path))

/-- Writes a configuration into a file. -/
def saveConfig (w : World) (ctx : Context) (path : String) (format : Option String)
    (config : Config) : Outcome :=
  match ctx.formatterFor path format with
  | .error e => w.fail (.unknownFormat e)
  | .ok f =>
    let made := w.files.makeParents w.location path
    match made.error with
    | some e => { w.fail (.files e) with files := made.files }
    | none =>
      match made.files.writeFile w.location path (f.format config).toUTF8 with
      | .error _ => { w.fail (.fileUnwritable path) with files := made.files }
      | .ok files =>
        { stdout := w.success
            ("Config saved to " ++ Style.cyan.paint w.color path ++ " (format: " ++ f.name ++ ")")
          log := [savedEvent path f.name]
          files }

namespace Command

/-- Carries out a command. -/
def run (w : World) (ctx : Context) : Command → Outcome
  | load file =>
    withConfig w file fun path config =>
      let s := config.summary
      w.print ("Loaded: " ++ Style.cyan.paint w.color path ++
        "\n  Environment variables: " ++ toString s.envVars ++
        "\n  PATH entries: " ++ toString s.pathEntries ++
        "\n  Other lines: " ++ toString s.rawLines ++ "\n")
  | envList file =>
    withConfig w file fun _ config =>
      if config.envVars.isEmpty then
        w.print (Style.dimmed.paint w.color "No environment variables found." ++ "\n")
      else
        w.print (String.join (config.envVars.map fun v =>
          Style.yellow.paint w.color v.name ++ "=" ++ v.value ++ "\n"))
  | envGet file name =>
    withConfig w file fun _ config =>
      match config.lookup? name with
      | some v => w.print (v.value ++ "\n")
      | none => w.refuse ("Variable \"" ++ name ++ "\" not found.")
  | envSet file name value format =>
    withConfig w file fun path config => saveConfig w ctx path format (config.setEnv name value)
  | envRemove file name format =>
    withConfig w file fun path config =>
      let saved := saveConfig w ctx path format (config.removeEnv name)
      if (config.lookup? name).isSome then saved
      else saved.printedBefore (w.warning ("Variable \"" ++ name ++ "\" not found, nothing removed."))
  | pathList file =>
    withConfig w file fun _ config =>
      if config.pathEntries.isEmpty then
        w.print (Style.dimmed.paint w.color "No PATH entries found." ++ "\n")
      else w.print (String.join (config.pathEntries.map (·.listed w.color)))
  | pathAdd file dir position format =>
    withConfig w file fun path config => saveConfig w ctx path format (config.addPath dir position)
  | pathRemove file dir format =>
    withConfig w file fun path config =>
      let saved := saveConfig w ctx path format (config.removePath dir)
      if config.hasPath dir then saved
      else saved.printedBefore (w.warning ("PATH entry \"" ++ dir ++ "\" not found, nothing removed."))
  | pathMove file dir position format =>
    withConfig w file fun path config =>
      if config.hasPath dir then saveConfig w ctx path format (config.movePath dir position)
      else w.refuse ("PATH entry \"" ++ dir ++ "\" not found.")
  | lint file =>
    withConfig w file fun path config =>
      let ds := ctx.linter.lint config
      let failed := ds.any (·.severity.atLeast ctx.settings.lint.failOn)
      let shown :=
        if ds.isEmpty then w.print (w.success "No issues found.")
        else w.print (lintReport w.color path ds) (if failed then 1 else 0)
      shown.loggedBefore [lintedEvent ctx.linter.rules.length ds.length]
  | printAs file format =>
    withConfig w file fun path config =>
      match ctx.formatterFor path format with
      | .error e => w.fail (.unknownFormat e)
      | .ok f => w.print (f.format config)
  | formats => w.print (String.join (ctx.registry.names.map (ctx.registry.listed w.color)))
  | configPath => w.print (ctx.settingsPath ++ "\n")
  | configInit force =>
    let path := ctx.settingsPath
    if (w.find? path).isSome && !force then
      w.refuse ("Settings file already exists: " ++ path ++ " (use --force to overwrite)")
    else
      let saved := w.files.save w.location path ({} : Settings).toml.toUTF8
      match saved.error with
      | some e => { w.fail (.files e) with files := saved.files }
      | none =>
        { stdout := w.success ("Settings written to " ++ Style.cyan.paint w.color path)
          files := saved.files }

end Command

end Dotfile

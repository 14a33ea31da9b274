import Dotfile.Config.Decode
import Dotfile.Data.Numeral
import Dotfile.Main
import Dotfile.Proofs.EditRuns
import Dotfile.Proofs.Environment
import Dotfile.Proofs.Formats
import Dotfile.Proofs.Saves
import Dotfile.Session
import Dotfile.Proofs.Confinement
import Dotfile.Proofs.Findings
import Dotfile.Proofs.Verdict
import Dotfile.Proofs.Export
import Dotfile.Proofs.Quoting
import Dotfile.Proofs.SettingsFile
import Dotfile.Proofs.EditedFindings
import Dotfile.Proofs.SavedFindings
import Dotfile.Proofs.Spelling
import Dotfile.Proofs.Locality
import Dotfile.Proofs.CheckOrder
import Dotfile.Proofs.Repair
import Dotfile.Proofs.RuleLists
import Dotfile.Proofs.Paths
import Dotfile.Proofs.Unquoting

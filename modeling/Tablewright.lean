import Tablewright.Text.Blank
import Tablewright.Access.Class
import Tablewright.CommandLine.Arguments
import Tablewright.CommandLine.Session
import Tablewright.Main
import Tablewright.Report.Arguments
import Tablewright.Proofs.Access.Class
import Tablewright.Proofs.Files.Place
import Tablewright.Proofs.Files.Tree
import Tablewright.Proofs.Run.Failing
import Tablewright.Proofs.Run.History
import Tablewright.Proofs.Run.Writing
import Tablewright.Proofs.Methods.Clashes
import Tablewright.Proofs.Calls.Binding
import Tablewright.Proofs.Access.Forwarding
import Tablewright.Proofs.Run.Regeneration
import Tablewright.Proofs.Text.Lines
import Tablewright.Proofs.Run.FreshTemplate
import Tablewright.Proofs.Access.Filter
import Tablewright.Proofs.Access.Updating
import Tablewright.Proofs.Access.Failures
import Tablewright.Proofs.Access.Confinement
import Tablewright.Proofs.Files.Status
import Tablewright.Proofs.Run.Schema
import Tablewright.Proofs.Settings.TableLists
import Tablewright.Proofs.Run.Settings
import Tablewright.Proofs.Schema.FromAbove
import Tablewright.Proofs.Schema.Printing
import Tablewright.Proofs.Naming.Segments
import Tablewright.Proofs.Naming.Snake
import Tablewright.Proofs.Files.Faults
import Tablewright.Proofs.Run.Replacing
import Tablewright.Proofs.Run.Reporting
import Tablewright.Proofs.Run.Silence
import Tablewright.Proofs.CommandLine.Session
import Tablewright.Proofs.CommandLine.Flags
import Tablewright.Proofs.CommandLine.FrontEnd
import Tablewright.Proofs.Schema.Keeping
import Tablewright.Proofs.Schema.Keeping.Statement
import Tablewright.Proofs.Schema.Keeping.Type
import Tablewright.Proofs.Schema.Spellings
import Tablewright.Proofs.Naming.Letters
import Tablewright.Proofs.Naming.Restoring
import Tablewright.Proofs.Methods.Source
import Tablewright.Proofs.Access.Pages
import Tablewright.Proofs.Access.Translation
import Tablewright.Proofs.Run.Markers
import Tablewright.Proofs.Settings.TemplateName
import Tablewright.Proofs.Naming.Boundaries
import Tablewright.Proofs.Text.Joined
import Tablewright.Proofs.Text.Identifier
import Tablewright.Proofs.Value.Keyed
import Tablewright.Proofs.Settings.Overrides
import Tablewright.Proofs.Methods.Overridden
import Tablewright.Proofs.Settings.NormalForm
import Tablewright.Proofs.Settings.Reporting
import Tablewright.Proofs.Console.Logging
import Tablewright.Proofs.Settings.DueForms
import Tablewright.Proofs.Value.Entries
import Tablewright.Proofs.Report.Arguments

import Busbind.Binding
import Busbind.Binding.Writing
import Busbind.CommandLine.Arguments
import Busbind.CommandLine.Directory
import Busbind.CommandLine.Messages
import Busbind.CommandLine.Run
import Busbind.Main
import Busbind.Proofs.Acceptance
import Busbind.Proofs.Attachment
import Busbind.Proofs.BusNames
import Busbind.Proofs.CamelCase
import Busbind.Proofs.Clashes
import Busbind.Proofs.Concatenation
import Busbind.Proofs.DocLines
import Busbind.Proofs.FirstFault
import Busbind.Proofs.Identifiers
import Busbind.Proofs.Interspersed
import Busbind.Proofs.JsonReading
import Busbind.Proofs.MissingBraces
import Busbind.Proofs.ObjectPath
import Busbind.Proofs.OutlineFaithful
import Busbind.Proofs.ParameterDocs
import Busbind.Proofs.Pushback
import Busbind.Proofs.PushbackDeclarations
import Busbind.Proofs.Readings
import Busbind.Proofs.Redirection
import Busbind.Proofs.References
import Busbind.Proofs.Spacing
import Busbind.Proofs.Strays
import Busbind.Proofs.Undocumented
import Busbind.Proofs.VersionEntries

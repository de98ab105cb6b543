import Typings.Logger
import Typings.Main
import Typings.Proofs.Path.Places
import Typings.Proofs.Naming
import Typings.Proofs.Conversion.Emission
import Typings.Proofs.Conversion.FinalTree
import Typings.Proofs.Conversion.Imports
import Typings.Proofs.Conversion.Rejection
import Typings.Proofs.Conversion.Sources
import Typings.Proofs.Model.ImportClosure
import Typings.Proofs.FileStem
import Typings.Proofs.Conversion.Collisions
import Typings.Proofs.Source.Line
import Typings.Proofs.Source.Literal
import Typings.Proofs.Model.Enumeration
import Typings.Proofs.EnumMeaning
import Typings.Proofs.Source.DeclaredType
import Typings.Proofs.Source.PropertyLine
import Typings.Proofs.RecordMeaning
import Typings.Proofs.Model.SelfImport
import Typings.Proofs.Conversion.Rerun
import Typings.Proofs.Conversion.Locality
import Typings.Proofs.Conversion.RootOrder
import Typings.Proofs.Model.StatedValue
import Typings.Proofs.Source.Layout
import Typings.Proofs.Model.Layout
import Typings.Proofs.Model.NestedProperty
import Typings.Proofs.Conversion.Styles
import Typings.Proofs.Model.Malformed
import Typings.Proofs.Model.Spelling
import Typings.Proofs.Model.BaseType
import Typings.Proofs.MemberNames
import Typings.Proofs.Source.TypeArguments
import Typings.Proofs.Model.ImportSegments
import Typings.Proofs.Source.PrintedLiteral
import Typings.Proofs.Source.Unwrapping
import Typings.Proofs.Discovery.EnteredRoots
import Typings.Proofs.Discovery.Completeness
import Typings.Proofs.Discovery.Loading
import Typings.Proofs.Retry.Outcomes
import Typings.Proofs.FileTree.AllOrNothing
import Typings.Proofs.Model.Registry
import Typings.Proofs.Target.Registration
import Typings.Proofs.Target.Resolution
import Typings.Proofs.Target.Aliases
import Typings.Proofs.Settings.Saving
import Typings.Proofs.CommandLine.Endings
import Typings.Proofs.Discovery.RepeatedRoots
import Typings.Proofs.Template.Adding
import Typings.Proofs.KebabCase
import Typings.Proofs.Source.Keyword

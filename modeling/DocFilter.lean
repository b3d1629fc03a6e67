import DocFilter.Main
import DocFilter.Operator.Script
import DocFilter.Proofs.Locality
import DocFilter.Proofs.TypeSafety
import DocFilter.Proofs.UnregisteredKeys
import DocFilter.Proofs.Connectives
import DocFilter.Proofs.Siblings
import DocFilter.Proofs.Disabling
import DocFilter.Proofs.Negation
import DocFilter.Proofs.ExplicitForms
import DocFilter.Proofs.WellFormed
import DocFilter.Proofs.KeyOrder
import DocFilter.Proofs.DistinctKeys
import DocFilter.Proofs.Coupling
import DocFilter.Proofs.Extension
import DocFilter.Proofs.Aliases
import DocFilter.Proofs.QueryOrder
import DocFilter.Proofs.Reports
import DocFilter.Proofs.Computed
import DocFilter.Proofs.Equality
import DocFilter.Proofs.Complements
import DocFilter.Proofs.Symmetry
import DocFilter.Proofs.Membership
import DocFilter.Proofs.Referring
import DocFilter.Proofs.Restating
import DocFilter.Proofs.Searching
import DocFilter.Proofs.KeyPaths
import DocFilter.Proofs.AliasTables
import DocFilter.Proofs.CompactText
import DocFilter.Proofs.LineByLine
import DocFilter.Proofs.Settings
import DocFilter.Proofs.BracketKeys
import DocFilter.Proofs.PatternText

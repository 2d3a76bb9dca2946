import NameCarry.Main
import NameCarry.Proofs.Lookups
import NameCarry.Proofs.ClassLinks
import NameCarry.Proofs.Carrying
import NameCarry.Proofs.Declared
import NameCarry.Proofs.MemberLinks
import NameCarry.Proofs.Transfers
import NameCarry.Proofs.ClassNames
import NameCarry.Proofs.MemberOrigin
import NameCarry.Proofs.TypeTokens
import NameCarry.Proofs.Descriptors
import NameCarry.Proofs.RoundTrips
import NameCarry.Proofs.Lines
import NameCarry.Proofs.Recoverable
import NameCarry.Proofs.ReadBack
import NameCarry.Proofs.Annotation
import NameCarry.Proofs.Relay
import NameCarry.Proofs.Rooted
import NameCarry.Proofs.Accounts
import NameCarry.Proofs.Sections
import NameCarry.Proofs.Reordering
import NameCarry.Proofs.Rearranged
import NameCarry.Proofs.Fates
import NameCarry.Proofs.Cuts
import NameCarry.Proofs.Omissions
import NameCarry.Proofs.Spelling
import NameCarry.Proofs.WordLines
import NameCarry.Proofs.Renaming
import NameCarry.Proofs.LinkOrder
import NameCarry.Proofs.Runs
import NameCarry.Proofs.Overloads
import NameCarry.Proofs.Footprints
import NameCarry.Proofs.SelfCarry
import NameCarry.Proofs.ReturningTypes
import NameCarry.Proofs.Exclusions

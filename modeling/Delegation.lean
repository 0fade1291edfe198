import Delegation.Choice
import Delegation.Settings.Loading
import Delegation.Types.Hierarchy
import Delegation.Proofs.Exchange
import Delegation.Proofs.Nesting
import Delegation.Proofs.Specificity
import Delegation.Proofs.Building
import Delegation.Proofs.StandardChain
import Delegation.Proofs.TieBreaking
import Delegation.Proofs.SharedPositions
import Delegation.Proofs.Rankings
import Delegation.Proofs.RoundTrip
import Delegation.Proofs.Sublists
import Delegation.Proofs.Greatest
import Delegation.Proofs.PriorityFirst
import Delegation.Proofs.Alike
import Delegation.Proofs.Editing
import Delegation.Proofs.MissingParameters
import Delegation.Proofs.Questions
import Delegation.Proofs.ChoiceLog
import Delegation.Proofs.Reachability
import Delegation.Proofs.Descriptors
import Delegation.Proofs.Joining
import Delegation.Proofs.WrittenDescriptors
import Delegation.Proofs.ListedStrategies
import Delegation.Proofs.ReadKeys

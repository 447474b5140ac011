import LoginCard.Main
import LoginCard.Proofs.Switching
import LoginCard.Proofs.Registration
import LoginCard.Proofs.Notification
import LoginCard.Proofs.Freshness
import LoginCard.Proofs.Restoring
import LoginCard.Proofs.Calls
import LoginCard.Proofs.Restart
import LoginCard.Proofs.Persistence
import LoginCard.Proofs.References
import LoginCard.Proofs.Fronts
import LoginCard.Proofs.Lockstep
import LoginCard.Proofs.Invisibility
import LoginCard.Proofs.Printing
import LoginCard.Proofs.Secrecy
import LoginCard.Proofs.Derivations
import LoginCard.Proofs.Returning
import LoginCard.Proofs.Confinement
import LoginCard.Proofs.Verdicts
import LoginCard.Proofs.Repair
import LoginCard.Proofs.Readers
import LoginCard.Proofs.Integrity
import LoginCard.Proofs.Memoisation
import LoginCard.Proofs.Unresolved
import LoginCard.Proofs.Colorless
import LoginCard.Proofs.Admission
import LoginCard.Proofs.Spellings
import LoginCard.Proofs.Settings
import LoginCard.Proofs.Effects

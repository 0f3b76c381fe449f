import AddonBridge.Proofs.Aliasing
import AddonBridge.Proofs.Binding
import AddonBridge.Proofs.Compatibility
import AddonBridge.Proofs.Containment
import AddonBridge.Proofs.Creation
import AddonBridge.Proofs.Discipline
import AddonBridge.Proofs.Dismissal
import AddonBridge.Proofs.Founding
import AddonBridge.Proofs.Handles
import AddonBridge.Proofs.Independence
import AddonBridge.Proofs.Lending
import AddonBridge.Proofs.Lifetimes
import AddonBridge.Proofs.Locations
import AddonBridge.Proofs.Numbering
import AddonBridge.Proofs.Publication
import AddonBridge.Proofs.Pushing
import AddonBridge.Proofs.Refusal
import AddonBridge.Proofs.Registration
import AddonBridge.Proofs.Removal
import AddonBridge.Proofs.Reporting
import AddonBridge.Proofs.Routing
import AddonBridge.Proofs.Screening
import AddonBridge.Proofs.SettingStore
import AddonBridge.Proofs.SingleMode
import AddonBridge.Proofs.Transparency
import AddonBridge.Proofs.Transport
import AddonBridge.Record
import AddonBridge.Scenario.Session

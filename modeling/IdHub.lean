import IdHub.HumanIDPaymentsTransfers
import IdHub.HubGovernance
import IdHub.HubTokens
import IdHub.HubSybilResistance
import IdHub.StellarLifetimes
import IdHub.StellarMinting
import IdHub.V3Expiry
import IdHub.TwistedIsomorphism
import IdHub.ElGamalTemplates
import IdHub.PedersenCommitment
import IdHub.EdDSAVerification
import IdHub.PointToMsgDecoding
import IdHub.V3CleanHandsDecryption
import IdHub.SubgroupCheck
import IdHub.QuinaryMerkleTree
import IdHub.NameDOB
import IdHub.V3CleanHandsBirthdate
import IdHub.ActionNullifier
import IdHub.V3PublicSignals
import IdHub.LeafNullifiers
import IdHub.Groth16Contracts
import IdHub.Groth16Malleability
import IdHub.DAEncrypt
import IdHub.DAEncryptOpenings
import IdHub.HumanIDPaymentsConservation
import IdHub.HubNullifierLookup
import IdHub.HubRevocation
import IdHub.HubTokenURI
import IdHub.SandboxHub
import IdHub.SignatureReplay
import IdHub.HubBatch
import IdHub.ZeronymV3PortalV2
import IdHub.AttesterResolver
import IdHub.StellarNullifierLookup
import IdHub.StellarGovernance
import IdHub.SuiSbtNullifiers
import IdHub.SuiSbtVerifier
import IdHub.AztecRegistry
import IdHub.AztecGovernance

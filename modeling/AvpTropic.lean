import AvpTropic.CString
import AvpTropic.Vault.Types
import AvpTropic.Vault.Name
import AvpTropic.Vault.SessionId
import AvpTropic.Vault.Ops
import AvpTropic.Vault.Chip
import AvpTropic.Vault.Arguments
import AvpTropic.Vault.Invariant
import AvpTropic.Vault.Refinement
import AvpTropic.Vault.Storage
import AvpTropic.Vault.Session
import AvpTropic.Vault.Access
import AvpTropic.Vault.LockedStore
import AvpTropic.Port.Random
import AvpTropic.Port.Gpio

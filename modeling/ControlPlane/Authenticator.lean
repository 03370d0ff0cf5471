import ControlPlane.Authenticator.Azure
import ControlPlane.Authenticator.Direct
import ControlPlane.Authenticator.Google
import ControlPlane.Authenticator.Profile

/-!
# The order of authenticators

What the settings say directly comes first, then the identity services of the clouds, and last the
profile file.
-/

namespace ControlPlane.Authenticator

variable [Wording]

/-- Every authenticator, in the order in which they are asked. -/
def standardChain : List Authenticator :=
  [direct, azureClientSecret, azureCli, googleAccounts, googleWorkspace, profile]

def ofName? (name : String) : Option Authenticator :=
  standardChain.find? fun authenticator => authenticator.name = name

/-- What a caller is told when no authenticator applies. -/
def notConfigured : Error :=
  .notConfigured <| "\n".intercalate [
    "authentication is not configured for provider. Please configure it",
    "through one of the following options:",
    "1. DATABRICKS_HOST + DATABRICKS_TOKEN environment variables.",
    "2. host + token provider arguments.",
    "3. host + username + password for basic authentication.",
    "4. azure_workspace_resource_id + AZ CLI authentication.",
    "5. azure_workspace_resource_id + azure_client_id + azure_client_secret + azure_tenant_id " ++
      "for Azure Service Principal authentication.",
    "6. google_service_account + google_credentials for GCP authentication.",
    "7. Run \x60databricks configure --token\x60 that will create ~/.databrickscfg file."]

end ControlPlane.Authenticator

/-!
# Kinds of authentication and clouds

The ways in which a request may be authenticated, and the clouds a workspace may run on, with the
names under which logs, settings and answers know them.
-/

namespace ControlPlane

/-- How requests are authenticated once a credential is found. -/
inductive AuthKind where
  | bearer
  | basic
  | azureClientSecret
  | azureCli
  | googleAccounts
  | googleWorkspace
  deriving DecidableEq, Repr

namespace AuthKind

def all : List AuthKind :=
  [.bearer, .basic, .azureClientSecret, .azureCli, .googleAccounts, .googleWorkspace]

/-- Whether the credential comes from the identity service of a cloud. -/
def isFederated : AuthKind → Bool
  | .bearer | .basic => false
  | _ => true

/-- The scheme named in the `Authorization` header. -/
def scheme : AuthKind → String
  | .basic => "Basic"
  | _ => "Bearer"

/-- The name in logs. -/
def text : AuthKind → String
  | .bearer => "bearer"
  | .basic => "basic"
  | .azureClientSecret => "azure-client-secret"
  | .azureCli => "azure-cli"
  | .googleAccounts => "google-accounts"
  | .googleWorkspace => "google-workspace"

/-- The name in JSON. -/
def jsonName : AuthKind → String
  | .bearer => "bearer"
  | .basic => "basic"
  | .azureClientSecret => "azure_client_secret"
  | .azureCli => "azure_cli"
  | .googleAccounts => "google_accounts"
  | .googleWorkspace => "google_workspace"

/-- The name in debug texts. -/
def debugName : AuthKind → String
  | .bearer => "Bearer"
  | .basic => "Basic"
  | .azureClientSecret => "AzureClientSecret"
  | .azureCli => "AzureCli"
  | .googleAccounts => "GoogleAccounts"
  | .googleWorkspace => "GoogleWorkspace"

def ofJsonName? (name : String) : Option AuthKind :=
  all.find? fun kind => kind.jsonName = name

end AuthKind

/-- The cloud a workspace runs on. -/
inductive Cloud where
  | aws
  | azure
  | gcp
  deriving DecidableEq, Repr

namespace Cloud

def all : List Cloud :=
  [.aws, .azure, .gcp]

def text : Cloud → String
  | .aws => "aws"
  | .azure => "azure"
  | .gcp => "gcp"

def ofText? (name : String) : Option Cloud :=
  all.find? fun cloud => cloud.text = name

end Cloud

end ControlPlane

import PathSpace.Network.Workspace
/-! # Clients

A client opens a session, perhaps as a named user, and makes workspaces on it.
-/

namespace PathSpace

/-- A client that is logged in. -/
structure Client where
  session : SessionId
  /-- The settings of its workspaces. -/
  workspaceDefaults : WorkspaceSettings := {}
  deriving DecidableEq, Repr

namespace Client

/-- The property with the name of the user. -/
def userKey : String := "user"

/-- The property with the password. -/
def passwordKey : String := "password"

/-- The properties that are used to log in. -/
def credentials (p : Properties) : Properties :=
  SortedMap.ofList (p.toList.filter fun e => e.1 == userKey || e.1 == passwordKey)

/-- Logs in. -/
def login (locator : Option String) (properties : Properties) (defaults : WorkspaceSettings := {}) :
    Action Client := do
  let s ← Session.openSession locator (credentials properties)
  return ⟨s, defaults⟩

/-- The properties of the settings of a session. -/
def settingsProperties (s : SessionSettings) : Properties :=
  SortedMap.ofList
    ((s.user.toList.map (userKey, ·)) ++ (s.password.toList.map (passwordKey, ·)))

/-- Logs in as the settings say. -/
def loginWith (settings : ClientSettings) : Action Client :=
  login settings.session.locator (settingsProperties settings.session) settings.workspace

/-- Closes the session. -/
def logout (c : Client) : Action Unit := Session.close c.session

/-- A workspace with the settings of the client. -/
def workspace (c : Client) (root : Path) : Workspace :=
  { root, session := c.session, settings := c.workspaceDefaults }

/-- A workspace whose listeners and evals run as units of work of their own. -/
def detachedWorkspace (c : Client) (root : Path) : Workspace :=
  { root, session := c.session, settings := { c.workspaceDefaults with delivery := .detached } }

/-- A workspace with settings of its own. -/
def workspaceWith (c : Client) (root : Path) (settings : WorkspaceSettings) : Workspace :=
  { root, session := c.session, settings }

end Client

end PathSpace

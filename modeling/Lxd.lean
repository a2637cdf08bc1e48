import Lxd.Go.Except
import Lxd.Go.Json
import Lxd.Go.Strings
import Lxd.Go.Url
import Lxd.Go.Path
import Lxd.Go.Strconv
import Lxd.Oidc.Verifier
import Lxd.Oidc.Cookies
import Lxd.Oidc.Auth
import Lxd.Oidc.Session
import Lxd.Agent.DevLxd
import Lxd.Agent.Router
import Lxd.Agent.BackupConfig
import Lxd.Agent.Events
import Lxd.Agent.Handlers
import Lxd.Api.NetworkAllocations
import Lxd.Request.Context
import Lxd.Sys.Os

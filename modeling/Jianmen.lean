import Jianmen.AuditArtifact.Sections
import Jianmen.AuditStore.Leasing
import Jianmen.Authorization.Agreement
import Jianmen.DBProxy.MySQL.Login
import Jianmen.DBProxy.Postgres.Bounds
import Jianmen.DBProxy.Postgres.Cancel
import Jianmen.DBProxy.Postgres.Connections
import Jianmen.DBProxy.Postgres.Integrity
import Jianmen.DBProxy.Redis.StreamReads
import Jianmen.Login.Captcha
import Jianmen.Provisioning.Canonical
import Jianmen.Provisioning.Exchange
import Jianmen.Provisioning.Fencing
import Jianmen.Provisioning.Sagas
import Jianmen.Recording.Chunks
import Jianmen.SFTPProxy.Writes
import Jianmen.SQLConsole.Statements
import Jianmen.SSHProxy.Teardown
import Jianmen.Settings.Running
import Jianmen.Util.Compact
import Jianmen.WebRDP.Enforcement

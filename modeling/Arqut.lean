import Arqut.Message
import Arqut.Service
import Arqut.Storage
import Arqut.Strconv
import Arqut.GoTime
import Arqut.TurnAuth
import Arqut.Issuance
import Arqut.ServiceSync
import Arqut.SyncRace
import Arqut.Registry
import Arqut.Hub
import Arqut.HubInterleaving
import Arqut.ClientConnect
import Arqut.Router
import Arqut.Base64
import Arqut.ApiKey
import Arqut.Config
import Arqut.Startup
import Arqut.ApiKeyCommand
import Arqut.PeerApi
import Arqut.ApiRoutes

import RedshiftProvider.Go.Url
import RedshiftProvider.Impl.ResourceData

/-!
The connection string `NewPqConfig` gives the `postgres` driver: a `postgres://` URL with the
credentials in its userinfo, the database as its path and two query parameters. The provider
builds its configuration from its attributes with `getConfigFromPqResourceData`, logging in with
the password or with temporary credentials, or with `getConfigFromDataApiResourceData` for the
Redshift Data API.
-/

/--
`buildConnStrFromPqConfig`, as the bytes of the string it returns. The parameters are listed in
one order here; Go ranges over the map in any order, and `sort.Strings` fixes the result.
-/
def buildConnStrFromPqConfig (host database username password : String) (port : Int)
    (sslMode : String) : List UInt8 :=
  let params : List (String × String) := [("sslmode", sslMode), ("connect_timeout", "180")]
  let paramsArray := sort.strings (params.map fun (key, value) =>
    goBytes key ++ goBytes "=" ++ url.queryEscape (goBytes value))
  goBytes "postgres://" ++ url.queryEscape (goBytes username) ++ goBytes ":" ++
    url.queryEscape (goBytes password) ++ goBytes "@" ++ goBytes host ++ goBytes ":" ++
    goBytes (toString port) ++ goBytes "/" ++ goBytes database ++ goBytes "?" ++
    (goBytes "&").intercalate paramsArray

/-- The drivers a configuration names: `proxyDriverName`, declared outside the sources, and
`redshiftDataDriverName`, that is `"redshift-data"`. -/
inductive DriverName where
  | proxy
  | redshiftData
  deriving DecidableEq, Repr

/-- A `*Config`, by the arguments given to `NewConfig`, whose body is not among the sources. -/
structure Config where
  driverName : DriverName
  connStr : List UInt8
  database : String
  maxConns : Int
  deriving DecidableEq, Repr

def newPqConfig (host database username password : String) (port : Int) (sslMode : String)
    (maxConns : Int) : Config :=
  let connStr := buildConnStrFromPqConfig host database username password port sslMode
  ⟨.proxy, connStr, database, maxConns⟩

/--
The provider attributes the configuration functions read, as `d.Get` returns them: an attribute
that is not set reads as `""` or `0`, which `d.GetOk` reports as unset.
-/
structure ProviderAttrs where
  host : String
  username : String
  port : Int
  sslmode : String
  password : String
  /-- Whether `d.GetOk("temporary_credentials")` finds the block. -/
  temporaryCredentials : Bool
  /-- `data_api.0.workgroup_name`. -/
  workgroupName : String
  /-- `data_api.0.region`. -/
  region : String
  deriving DecidableEq, Repr

/-- `temporaryCredentialsResolverFunc`: the user name and password to log in with. -/
abbrev temporaryCredentialsResolverFunc :=
  String → ResourceData ProviderAttrs → Except GoError (String × String)

def getConfigFromPqResourceData (d : ResourceData ProviderAttrs) (database : String)
    (maxConnections : Int) (temporaryCredentialsResolver : temporaryCredentialsResolverFunc) :
    Except GoError Config := do
  let host := d.new.host
  if host = "" then
    throw (.errorf "host must be specified and non-empty")
  let username := d.new.username
  if username = "" then
    throw (.errorf "username must be specified and non-empty")
  let port := d.new.port
  let sslMode := d.new.sslmode
  let (username, password) ← if d.new.temporaryCredentials then
      (temporaryCredentialsResolver username d).mapError
        (.wrapf "failed to resolve temporary credentials: ")
    else
      let password := d.new.password
      if password = "" then
        throw (.errorf
          "password must be specified and non-empty when using password authentication")
      pure (username, password)
  return newPqConfig host database username password port sslMode maxConnections

/-- `buildConnStrFromDataApiConfig`, as the bytes of the string it returns. -/
def buildConnStrFromDataApiConfig (workgroupName database awsRegion : String) : List UInt8 :=
  goBytes ("workgroup(" ++ workgroupName ++ ")/" ++ database ++ "?region=" ++ awsRegion ++
    "&transactionMode=non-transactional&requestMode=blocking")

def newDataApiConfig (workgroupName database awsRegion : String) (maxConns : Int) : Config :=
  let connStr := buildConnStrFromDataApiConfig workgroupName database awsRegion
  ⟨.redshiftData, connStr, database, maxConns⟩

/-- `getConfigFromDataApiResourceData` of `src/redshift/config_data_api.go`. -/
def getConfigFromDataApiResourceData (d : ResourceData ProviderAttrs) (database : String) :
    Except GoError Config := do
  let workgroupName := d.new.workgroupName
  if workgroupName = "" then
    throw (.errorf "attribute \"workgroup_name\" is required in data_api configuration")
  let region := d.new.region
  if region = "" then
    throw (.errorf "attribute \"region\" is required in data_api configuration")
  return newDataApiConfig workgroupName database region 1

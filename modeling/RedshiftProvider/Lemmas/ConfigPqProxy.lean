import RedshiftProvider.Impl.ConfigPqProxy
import RedshiftProvider.Lemmas.Url

/-!
What `lib/pq` reads back from the connection string `buildConnStrFromPqConfig` writes: the host,
port, database and parameters as given, and the credentials with every blank turned into `+`.
-/

open url bytes

theorem sort_params (v : List UInt8) :
    sort.strings [goBytes "sslmode" ++ goBytes "=" ++ queryEscape v,
      goBytes "connect_timeout" ++ goBytes "=" ++ queryEscape (goBytes "180")] =
      [goBytes "connect_timeout" ++ goBytes "=" ++ queryEscape (goBytes "180"),
        goBytes "sslmode" ++ goBytes "=" ++ queryEscape v] :=
  rfl

theorem buildConnStrFromPqConfig_eq (host database username password : String) (port : Int)
    (sslMode : String) :
    buildConnStrFromPqConfig host database username password port sslMode =
      goBytes "postgres://" ++ ((queryEscape (goBytes username) ++ byte ':' ::
        queryEscape (goBytes password)) ++ byte '@' :: (goBytes host ++ byte ':' ::
        goBytes (toString port))) ++ byte '/' :: goBytes database ++ byte '?' ::
        (goBytes "&").intercalate ([(goBytes "connect_timeout", goBytes "180"),
          (goBytes "sslmode", goBytes sslMode)].map fun p => p.1 ++ goBytes "=" ++ queryEscape p.2) := by
  unfold buildConnStrFromPqConfig
  dsimp only [List.map_cons, List.map_nil]
  rw [sort_params]
  simp only [List.map_cons, List.map_nil, List.append_assoc, List.cons_append, List.nil_append, show goBytes ":" = [byte ':'] from rfl, show goBytes "@" = [byte '@'] from rfl,
    show goBytes "/" = [byte '/'] from rfl, show goBytes "?" = [byte '?'] from rfl,
    List.singleton_append]

/--
For a host name of unreserved bytes, a port that is not negative and a database without control
bytes, `%`, `?` or `#`, `ParseURL` reads back every option `buildConnStrFromPqConfig` writes. The
user name and the password come back with each blank written as `+`, and only then.
-/
theorem parseURL_buildConnStrFromPqConfig (host database username password : String) (port : Int)
    (sslMode : String) (hhost : ∀ c ∈ goBytes host, isUnreserved c) (hhost' : host ≠ "")
    (hdb : ∀ c ∈ goBytes database,
      0x20 ≤ c ∧ c ≠ 0x7f ∧ c ≠ byte '%' ∧ c ≠ byte '?' ∧ c ≠ byte '#')
    (hdb' : database ≠ "") (hport : 0 ≤ port) (huser : username ≠ "") (hpw : password ≠ "")
    (hssl : sslMode ≠ "") :
    pq.parseURL (buildConnStrFromPqConfig host database username password port sslMode) =
      .ok [(goBytes "user", (goBytes username).map (unescapeOfQueryEscape .userPassword)),
        (goBytes "password", (goBytes password).map (unescapeOfQueryEscape .userPassword)),
        (goBytes "host", goBytes host), (goBytes "port", goBytes (toString port)),
        (goBytes "dbname", goBytes database), (goBytes "connect_timeout", goBytes "180"),
        (goBytes "sslmode", goBytes sslMode)] := by
  obtain ⟨hdigits, hport'⟩ := goBytes_toString_of_nonneg hport
  rw [buildConnStrFromPqConfig_eq]
  exact pq.parseURL_postgres hhost (goBytes_ne_nil hhost') hdigits hport' hdb (goBytes_ne_nil hdb')
    (goBytes_ne_nil huser) (goBytes_ne_nil hpw) (goBytes_ne_nil hssl)

set_option maxRecDepth 20000 in
/--
`url.QueryEscape` writes a blank of the user name as `+`, which the userinfo of a URL keeps as
it is: the driver logs in as `some+user`.
-/
theorem parseURL_buildConnStrFromPqConfig_blankInUsername :
    pq.parseURL (buildConnStrFromPqConfig "some-host" "some-database" "some user" "some-pw" 4122
        "require") =
      .ok [(goBytes "user", goBytes "some+user"), (goBytes "password", goBytes "some-pw"),
        (goBytes "host", goBytes "some-host"), (goBytes "port", goBytes "4122"),
        (goBytes "dbname", goBytes "some-database"), (goBytes "connect_timeout", goBytes "180"),
        (goBytes "sslmode", goBytes "require")] := by
  decide

section providerConfig

variable {d : ResourceData ProviderAttrs} {database : String} {maxConnections : Int}
  {resolver : temporaryCredentialsResolverFunc}

theorem getConfigFromPqResourceData_eq_ok {cfg : Config}
    (h : getConfigFromPqResourceData d database maxConnections resolver = .ok cfg) :
    d.new.host ≠ "" ∧ d.new.username ≠ "" ∧ ∃ username password,
      (if d.new.temporaryCredentials then resolver d.new.username d = .ok (username, password)
        else username = d.new.username ∧ password = d.new.password ∧ password ≠ "") ∧
      cfg = newPqConfig d.new.host database username password d.new.port d.new.sslmode
        maxConnections := by
  unfold getConfigFromPqResourceData at h
  rcases ite_eq_iff.mp h with ⟨-, ⟨⟩⟩ | ⟨hhost, h⟩
  simp only [Except.pure_eq_ok, Except.ok_bind] at h
  rcases ite_eq_iff.mp h with ⟨-, ⟨⟩⟩ | ⟨huser, h⟩
  rcases ite_eq_iff.mp h with ⟨htemp, h⟩ | ⟨htemp, h⟩
  · obtain ⟨⟨username, password⟩, hcred, hcfg⟩ := Except.bind_eq_ok.mp h
    refine ⟨hhost, huser, username, password, ?_, (Except.ok.inj hcfg).symm⟩
    rw [if_pos htemp]
    exact Except.mapError_eq_ok.mp hcred
  · rcases ite_eq_iff.mp h with ⟨-, ⟨⟩⟩ | ⟨hpw, h⟩
    refine ⟨hhost, huser, _, _, ?_, (Except.ok.inj h).symm⟩
    rw [if_neg htemp]
    exact ⟨rfl, rfl, hpw⟩

/--
A configuration `getConfigFromPqResourceData` returns names the proxy driver, the database and the
connection limit it was given, and `ParseURL` reads back from its connection string the configured
host, port and SSL mode, and the credentials it logs in with: the configured user name and
password, or those the resolver gives for temporary credentials, with every blank as `+`.
-/
theorem parseURL_getConfigFromPqResourceData {cfg : Config}
    (h : getConfigFromPqResourceData d database maxConnections resolver = .ok cfg)
    (hhost : ∀ c ∈ goBytes d.new.host, isUnreserved c)
    (hdb : ∀ c ∈ goBytes database,
      0x20 ≤ c ∧ c ≠ 0x7f ∧ c ≠ byte '%' ∧ c ≠ byte '?' ∧ c ≠ byte '#')
    (hdb' : database ≠ "") (hport : 0 ≤ d.new.port) (hssl : d.new.sslmode ≠ "")
    (hresolver : ∀ username password, resolver d.new.username d = .ok (username, password) →
      username ≠ "" ∧ password ≠ "") :
    cfg.driverName = .proxy ∧ cfg.database = database ∧ cfg.maxConns = maxConnections ∧
      ∃ username password,
        (if d.new.temporaryCredentials then resolver d.new.username d = .ok (username, password)
          else username = d.new.username ∧ password = d.new.password ∧ password ≠ "") ∧
        pq.parseURL cfg.connStr =
          .ok [(goBytes "user", (goBytes username).map (unescapeOfQueryEscape .userPassword)),
            (goBytes "password", (goBytes password).map (unescapeOfQueryEscape .userPassword)),
            (goBytes "host", goBytes d.new.host), (goBytes "port", goBytes (toString d.new.port)),
            (goBytes "dbname", goBytes database), (goBytes "connect_timeout", goBytes "180"),
            (goBytes "sslmode", goBytes d.new.sslmode)] := by
  obtain ⟨hhost', huser, username, password, hcred, rfl⟩ := getConfigFromPqResourceData_eq_ok h
  -- both ways to log in give a user name and a password that are set
  have hne : username ≠ "" ∧ password ≠ "" := by
    split at hcred
    · exact hresolver _ _ hcred
    · obtain ⟨rfl, rfl, hpw⟩ := hcred
      exact ⟨huser, hpw⟩
  exact ⟨rfl, rfl, rfl, username, password, hcred, parseURL_buildConnStrFromPqConfig _ _ _ _ _ _
    hhost hhost' hdb hdb' hport hne.1 hne.2 hssl⟩

theorem parseURL_getConfigFromPqResourceData_temporary :
    getConfigFromPqResourceData ⟨"", ⟨"host", "admin", 5439, "require", "", true, "", ""⟩,
        ⟨"host", "admin", 5439, "require", "", true, "", ""⟩⟩ "dev" 20
        (fun _ _ => .ok ("IAM:admin", "secret")) =
      .ok (newPqConfig "host" "dev" "IAM:admin" "secret" 5439 "require" 20) ∧
    ∃ username password, (if true then
        (.ok ("IAM:admin", "secret") : Except GoError (String × String)) = .ok (username, password)
        else username = "admin" ∧ password = "" ∧ password ≠ "") ∧
      pq.parseURL (newPqConfig "host" "dev" "IAM:admin" "secret" 5439 "require" 20).connStr =
        .ok [(goBytes "user", (goBytes username).map (unescapeOfQueryEscape .userPassword)),
          (goBytes "password", (goBytes password).map (unescapeOfQueryEscape .userPassword)),
          (goBytes "host", goBytes "host"), (goBytes "port", goBytes (toString (5439 : Int))),
          (goBytes "dbname", goBytes "dev"), (goBytes "connect_timeout", goBytes "180"),
          (goBytes "sslmode", goBytes "require")] := by
  have h : getConfigFromPqResourceData ⟨"", ⟨"host", "admin", 5439, "require", "", true, "", ""⟩,
      ⟨"host", "admin", 5439, "require", "", true, "", ""⟩⟩ "dev" 20
      (fun _ _ => .ok ("IAM:admin", "secret")) =
      .ok (newPqConfig "host" "dev" "IAM:admin" "secret" 5439 "require" 20) := rfl
  exact ⟨h, (parseURL_getConfigFromPqResourceData h (by decide) (by decide) (by decide)
    (by decide) (by decide) fun _ _ hr => by cases hr; decide).2.2.2⟩

end providerConfig

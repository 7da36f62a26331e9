/-
Module: ServersManager.LogMigration
Purpose: The migration that makes the health-check log polymorphic, and when its `down`
  restores the log of the hosts.
Trusted boundary: none
Main exports:
  up, down, initialCatalog, phase2Catalog, StoredLog, checkDomain_writes,
  down_restores_iff, migration_reversible_iff
-/
import ServersManager.Library.Schema
import ServersManager.DomainCheck
import ServersManager.HealthCheck

namespace ServersManager

open Library

/-! ### `migrations/1700100000000-Phase2DomainsAndPolymorphicLogs.ts` -/

/-- The names of tables, columns, types, indexes and constraints. -/
inductive SchemaName where
  | organizations
  | hosts
  | healthCheckLogs
  | domains
  | sslCertificates
  | id
  | orgId
  | hostId
  | domainId
  | entityType
  | entityId
  | status
  | rawOutput
  | checkedAt
  | hostname
  | registrar
  | domainExpiresAt
  | dnsStatus
  | resolvedIp
  | issuer
  | validFrom
  | validTo
  | lastCheckedAt
  | createdAt
  | healthCheckLogsStatusEnum
  | healthCheckLogsEntityTypeEnum
  | domainsDnsStatusEnum
  | sslCertificatesStatusEnum
  | idxHealthCheckLogsHostId
  | idxHealthCheckLogsEntity
  | idxDomainsOrgIdHostname
  | fkHealthCheckLogsHostId
  | fkDomainsOrgId
  | fkDomainsHostId
  | fkSslCertificatesDomainId
deriving Repr, DecidableEq

/-- The values that no statement looks at. -/
inductive Stored where
  | json (value : Json)
  | timestamp (value : Date)
deriving Repr

namespace Phase2DomainsAndPolymorphicLogs

open SchemaName

abbrev LogStatement := Statement SchemaName Stored

abbrev LogRow := SqlRow SchemaName Stored

def healthCheckLogsStatusLabels : List String := ["healthy", "degraded", "unreachable"]

def hostIndex : SqlIndex SchemaName :=
  { name := idxHealthCheckLogsHostId, table := healthCheckLogs, columns := [hostId]
    unique := false }

def entityIndex : SqlIndex SchemaName :=
  { name := idxHealthCheckLogsEntity, table := healthCheckLogs
    columns := [entityType, entityId], unique := false }

def hostReference : Reference SchemaName :=
  { name := fkHealthCheckLogsHostId, column := hostId, target := hosts, key := id }

def domainColumns : List (SqlColumn SchemaName) :=
  [{ name := id, type := .uuid, notNull := true },
    { name := orgId, type := .uuid, notNull := true },
    { name := hostId, type := .uuid, notNull := false },
    { name := hostname, type := .text, notNull := true },
    { name := registrar, type := .text, notNull := false },
    { name := domainExpiresAt, type := .timestamp, notNull := false },
    { name := dnsStatus, type := .enum domainsDnsStatusEnum, notNull := true },
    { name := resolvedIp, type := .text, notNull := false },
    { name := lastCheckedAt, type := .timestamp, notNull := false },
    { name := createdAt, type := .timestamp, notNull := true }]

def domainReferences : List (Reference SchemaName) :=
  [{ name := fkDomainsOrgId, column := orgId, target := organizations, key := id },
    { name := fkDomainsHostId, column := hostId, target := hosts, key := id }]

def domainIndex : SqlIndex SchemaName :=
  { name := idxDomainsOrgIdHostname, table := domains, columns := [orgId, hostname]
    unique := true }

def certificateColumns : List (SqlColumn SchemaName) :=
  [{ name := id, type := .uuid, notNull := true },
    { name := domainId, type := .uuid, notNull := true },
    { name := issuer, type := .text, notNull := false },
    { name := validFrom, type := .timestamp, notNull := false },
    { name := validTo, type := .timestamp, notNull := false },
    { name := status, type := .enum sslCertificatesStatusEnum, notNull := true },
    { name := lastCheckedAt, type := .timestamp, notNull := false },
    { name := createdAt, type := .timestamp, notNull := true }]

def certificateReferences : List (Reference SchemaName) :=
  [{ name := fkSslCertificatesDomainId, column := domainId, target := domains, key := id }]

/-- The part of `up` that turns `host_id` into `entity_type` and `entity_id`. -/
def upEntity : List LogStatement :=
  [.createType healthCheckLogsEntityTypeEnum ["host", "domain", "ssl_certificate"],
    .addColumn healthCheckLogs
      { name := entityType, type := .enum healthCheckLogsEntityTypeEnum, notNull := true }
      (some (.label "host")),
    .addColumn healthCheckLogs { name := entityId, type := .uuid, notNull := false } none,
    .copyColumn healthCheckLogs entityId hostId none,
    .setNotNull healthCheckLogs entityId,
    .dropConstraint healthCheckLogs fkHealthCheckLogsHostId,
    .dropIndex idxHealthCheckLogsHostId,
    .dropColumn healthCheckLogs hostId]

/-- The rest of `up`: the status as text, and the tables of the domains. -/
def upStatus : List LogStatement :=
  [.alterType healthCheckLogs status .text,
    .dropType healthCheckLogsStatusEnum,
    .createIndex entityIndex,
    .createType domainsDnsStatusEnum ["unknown", "resolving", "not_resolving"],
    .createTable domains domainColumns domainReferences,
    .createIndex domainIndex,
    .createType sslCertificatesStatusEnum
      ["unknown", "valid", "expiring_soon", "expired", "invalid"],
    .createTable sslCertificates certificateColumns certificateReferences]

def up : List LogStatement := upEntity ++ upStatus

/-- The part of `down` before the status is cast. -/
def downTables : List LogStatement :=
  [.dropTable sslCertificates,
    .dropType sslCertificatesStatusEnum,
    .dropIndex idxDomainsOrgIdHostname,
    .dropTable domains,
    .dropType domainsDnsStatusEnum,
    .dropIndex idxHealthCheckLogsEntity,
    .createType healthCheckLogsStatusEnum healthCheckLogsStatusLabels]

def downStatus : LogStatement :=
  .alterType healthCheckLogs status (.enum healthCheckLogsStatusEnum)

/-- The part of `down` that brings `host_id` back. -/
def downHosts : List LogStatement :=
  [.addColumn healthCheckLogs { name := hostId, type := .uuid, notNull := false } none,
    .copyColumn healthCheckLogs hostId entityId (some (entityType, "host")),
    .deleteNull healthCheckLogs hostId,
    .setNotNull healthCheckLogs hostId,
    .createIndex hostIndex]

def downReference : LogStatement := .addReference healthCheckLogs hostReference

def downEntity : List LogStatement :=
  [.dropColumn healthCheckLogs entityId,
    .dropColumn healthCheckLogs entityType,
    .dropType healthCheckLogsEntityTypeEnum]

def down : List LogStatement :=
  downTables ++ downStatus :: (downHosts ++ downReference :: downEntity)

end Phase2DomainsAndPolymorphicLogs

open Phase2DomainsAndPolymorphicLogs

/-! ### The tables before and after -/

/-- A row of the initial schema's log. -/
structure HostLog where
  id : Nat
  hostId : Nat
  status : String
  rawOutput : Json
  checkedAt : Date
  member : status ∈ healthCheckLogsStatusLabels

/-- The log of the initial schema and the hosts that it refers to. -/
structure InitialLogs where
  hosts : List Nat
  logs : List HostLog
  references : ∀ log ∈ logs, log.hostId ∈ hosts

/-- A row that the application has written, with the time the database has set. -/
structure StoredLog extends HealthCheckLog where
  checkedAt : Date

def HealthCheckEntityType.text : HealthCheckEntityType → String
  | .host => "host"
  | .domain => "domain"
  | .sslCertificate => "ssl_certificate"
  | .service => "service"

def keyRow (key : Nat) : LogRow
  | .id => some (.uuid key)
  | _ => none

def HostLog.row (log : HostLog) : LogRow
  | .id => some (.uuid log.id)
  | .hostId => some (.uuid log.hostId)
  | .status => some (.label log.status)
  | .rawOutput => some (.other (.json log.rawOutput))
  | .checkedAt => some (.other (.timestamp log.checkedAt))
  | _ => none

def StoredLog.row (log : StoredLog) : LogRow
  | .id => some (.uuid log.id)
  | .entityType => some (.label log.entityType.text)
  | .entityId => some (.uuid log.entityId)
  | .status => some (.text log.status)
  | .rawOutput => some (.other (.json log.rawOutput))
  | .checkedAt => some (.other (.timestamp log.checkedAt))
  | _ => none

def keyColumns : List (SqlColumn SchemaName) :=
  [{ name := .id, type := .uuid, notNull := true }]

/-- The log table of the initial schema. -/
def initialLogTable (rows : List LogRow) : SqlTable SchemaName Stored :=
  { columns :=
      [{ name := .id, type := .uuid, notNull := true },
        { name := .hostId, type := .uuid, notNull := true },
        { name := .status, type := .enum .healthCheckLogsStatusEnum, notNull := true },
        { name := .rawOutput, type := .json, notNull := true },
        { name := .checkedAt, type := .timestamp, notNull := true }]
    references := [hostReference]
    rows := rows }

def keyTable (keys : List Nat) : SqlTable SchemaName Stored :=
  { columns := keyColumns, references := [], rows := keys.map keyRow }

/-- The initial schema, as far as the migration looks at it. -/
def initialCatalog (organizations : List Nat) (initial : InitialLogs) :
    Catalog SchemaName Stored where
  types := [(.healthCheckLogsStatusEnum, healthCheckLogsStatusLabels)]
  tables :=
    [(.organizations, keyTable organizations),
      (.hosts, keyTable initial.hosts),
      (.healthCheckLogs, initialLogTable (initial.logs.map HostLog.row))]
  indexes := [hostIndex]

def phase2LogTable (rows : List LogRow) : SqlTable SchemaName Stored :=
  { columns :=
      [{ name := .id, type := .uuid, notNull := true },
        { name := .status, type := .text, notNull := true },
        { name := .rawOutput, type := .json, notNull := true },
        { name := .checkedAt, type := .timestamp, notNull := true },
        { name := .entityType, type := .enum .healthCheckLogsEntityTypeEnum
          notNull := true },
        { name := .entityId, type := .uuid, notNull := true }]
    references := []
    rows := rows }

/-- The tables that the application finds after `up`. -/
structure Phase2Tables where
  organizations : List Nat
  hosts : List Nat
  logs : List StoredLog
  domains : List LogRow
  certificates : List LogRow

def phase2Catalog (tables : Phase2Tables) : Catalog SchemaName Stored where
  types :=
    [(.healthCheckLogsEntityTypeEnum, ["host", "domain", "ssl_certificate"]),
      (.domainsDnsStatusEnum, ["unknown", "resolving", "not_resolving"]),
      (.sslCertificatesStatusEnum,
        ["unknown", "valid", "expiring_soon", "expired", "invalid"])]
  tables :=
    [(.organizations, keyTable tables.organizations),
      (.hosts, keyTable tables.hosts),
      (.healthCheckLogs, phase2LogTable (tables.logs.map StoredLog.row)),
      (.domains,
        { columns := domainColumns
          references := domainReferences
          rows := tables.domains }),
      (.sslCertificates,
        { columns := certificateColumns
          references := certificateReferences
          rows := tables.certificates })]
  indexes := [entityIndex, domainIndex]

/-- The row of the initial schema that a log about a host comes from. -/
def StoredLog.hostRow (log : StoredLog) : LogRow
  | .id => some (.uuid log.id)
  | .hostId => some (.uuid log.entityId)
  | .status => some (.label log.status)
  | .rawOutput => some (.other (.json log.rawOutput))
  | .checkedAt => some (.other (.timestamp log.checkedAt))
  | _ => none

def StoredLog.isHost (log : StoredLog) : Bool :=
  log.entityType = .host

/-- What a revert is to do: complete, and leave exactly the logs of the hosts. -/
def DownRestores (tables : Phase2Tables) : Prop :=
  ∃ after, Catalog.transaction down (phase2Catalog tables) = some after ∧
    after.rows .healthCheckLogs = (tables.logs.filter StoredLog.isHost).map StoredLog.hostRow


/-! ### `up` -/

/-- The row between the two halves of `up`. -/
def HostLog.entityRow (log : HostLog) : LogRow
  | .id => some (.uuid log.id)
  | .entityType => some (.label "host")
  | .entityId => some (.uuid log.hostId)
  | .status => some (.label log.status)
  | .rawOutput => some (.other (.json log.rawOutput))
  | .checkedAt => some (.other (.timestamp log.checkedAt))
  | _ => none

def HostLog.stored (log : HostLog) : StoredLog :=
  { id := log.id
    entityType := .host
    entityId := log.hostId
    status := log.status
    rawOutput := log.rawOutput
    checkedAt := log.checkedAt }

/-- What `up` makes of the tables of the initial schema. -/
def InitialLogs.upgraded (organizations : List Nat) (initial : InitialLogs) : Phase2Tables :=
  { organizations := organizations
    hosts := initial.hosts
    logs := initial.logs.map HostLog.stored
    domains := []
    certificates := [] }

def entityLogTable (rows : List LogRow) : SqlTable SchemaName Stored :=
  (phase2LogTable rows).alterColumn .status fun column =>
    { column with type := .enum .healthCheckLogsStatusEnum }

def entityCatalog (organizations hosts : List Nat) (rows : List LogRow) :
    Catalog SchemaName Stored where
  types :=
    [(.healthCheckLogsStatusEnum, healthCheckLogsStatusLabels),
      (.healthCheckLogsEntityTypeEnum, ["host", "domain", "ssl_certificate"])]
  tables :=
    [(.organizations, keyTable organizations),
      (.hosts, keyTable hosts),
      (.healthCheckLogs, entityLogTable rows)]
  indexes := []

/-- The rows as the columns that replace `host_id` are added and filled. -/
def backfill (rows : List LogRow) : List LogRow :=
  ((rows.map (SqlRow.set .entityType (some (.label "host")))).map
    (SqlRow.set .entityId none)).map (SqlRow.copy .entityId .hostId none)

/-- After the backfill the logs of hosts are logs of entities. -/
theorem backfill_rows (logs : List HostLog) :
    (backfill (logs.map HostLog.row)).map (SqlRow.set .hostId none) =
      logs.map HostLog.entityRow := by
  simp only [backfill, List.map_map]
  apply List.map_congr_left
  intro log _
  funext column
  cases column <;> rfl

/-- The backfill leaves no entity unnamed, which the column then requires. -/
theorem backfill_entityId (logs : List HostLog) :
    ∀ row ∈ backfill (logs.map HostLog.row), (row SchemaName.entityId).isSome = true := by
  simp only [backfill, List.map_map]
  intro row member
  obtain ⟨log, -, rfl⟩ := List.mem_map.mp member
  rfl

/-- The first migration, on every database that it may find. -/
theorem upEntity_transaction (organizations : List Nat) (initial : InitialLogs) :
    Catalog.transaction upEntity (initialCatalog organizations initial) =
      some (entityCatalog organizations initial.hosts
        (initial.logs.map HostLog.entityRow)) := by
  rw [← backfill_rows]
  apply (Catalog.transaction_step rfl _).trans
  apply (Catalog.transaction_step rfl _).trans
  apply (Catalog.transaction_step rfl _).trans
  apply (Catalog.transaction_step rfl _).trans
  apply (Catalog.transaction_step (Catalog.exec_setNotNull rfl rfl
    (backfill_entityId initial.logs)) _).trans
  apply (Catalog.transaction_step rfl _).trans
  apply (Catalog.transaction_step rfl _).trans
  apply (Catalog.transaction_step rfl _).trans
  rfl


/-- The status of a host becomes a text. -/
theorem HostLog.cast_entityRow (log : HostLog) :
    SqlRow.cast none SchemaName.status log.entityRow = some log.stored.row := by
  change some (SqlRow.set SchemaName.status (some (.text log.status)) log.entityRow) = _
  congr 1
  funext column
  cases column <;> rfl

/-- The second migration, on what the first one left. -/
theorem upStatus_transaction (organizations : List Nat) (initial : InitialLogs) :
    Catalog.transaction upStatus (entityCatalog organizations initial.hosts
        (initial.logs.map HostLog.entityRow)) =
      some (phase2Catalog (initial.upgraded organizations)) := by
  have casts := mapM_map_some initial.logs fun log _ => log.cast_entityRow
  have stored : initial.logs.map (fun log => log.stored.row) =
      (initial.upgraded organizations).logs.map StoredLog.row := by
    change _ = (initial.logs.map HostLog.stored).map StoredLog.row
    rw [List.map_map]
    rfl
  rw [stored] at casts
  apply (Catalog.transaction_step (Catalog.exec_alterType rfl rfl rfl casts) _).trans
  apply (Catalog.transaction_step rfl _).trans
  apply (Catalog.transaction_step rfl _).trans
  apply (Catalog.transaction_step rfl _).trans
  apply (Catalog.transaction_step rfl _).trans
  apply (Catalog.transaction_step rfl _).trans
  apply (Catalog.transaction_step rfl _).trans
  apply (Catalog.transaction_step rfl _).trans
  rfl

/-- `up` goes through on every log of the initial schema. -/
theorem up_transaction (organizations : List Nat) (initial : InitialLogs) :
    Catalog.transaction up (initialCatalog organizations initial) =
      some (phase2Catalog (initial.upgraded organizations)) := by
  rw [up, Catalog.transaction_append, upEntity_transaction, Option.bind_some,
    upStatus_transaction]

/-! ### `down` -/

/-- A row whose status has been cast. -/
def StoredLog.labelRow (log : StoredLog) : LogRow
  | .id => some (.uuid log.id)
  | .entityType => some (.label log.entityType.text)
  | .entityId => some (.uuid log.entityId)
  | .status => some (.label log.status)
  | .rawOutput => some (.other (.json log.rawOutput))
  | .checkedAt => some (.other (.timestamp log.checkedAt))
  | _ => none

/-- A row of a host's log with the key of the host in both columns. -/
def StoredLog.bothRow (log : StoredLog) : LogRow :=
  SqlRow.set .hostId (some (.uuid log.entityId)) log.labelRow

def statusCatalog (tables : Phase2Tables) : Catalog SchemaName Stored where
  types :=
    [(.healthCheckLogsEntityTypeEnum, ["host", "domain", "ssl_certificate"]),
      (.healthCheckLogsStatusEnum, healthCheckLogsStatusLabels)]
  tables :=
    [(.organizations, keyTable tables.organizations),
      (.hosts, keyTable tables.hosts),
      (.healthCheckLogs, phase2LogTable (tables.logs.map StoredLog.row))]
  indexes := []

/-- The first statements of `down` always succeed. -/
theorem downTables_transaction (tables : Phase2Tables) :
    Catalog.transaction downTables (phase2Catalog tables) = some (statusCatalog tables) :=
  rfl

/-- Casting a row back casts its status. -/
theorem StoredLog.cast_row (log : StoredLog) :
    SqlRow.cast (some healthCheckLogsStatusLabels) SchemaName.status log.row =
      (SqlValue.cast (some healthCheckLogsStatusLabels) (.text log.status)).map
        fun casted => SqlRow.set SchemaName.status (some casted) log.row := by
  have held : log.row SchemaName.status = some (.text log.status) := rfl
  exact SqlRow.cast_of_some held _

/-- A status that is a label of the old type is cast to it. -/
theorem StoredLog.cast_member {log : StoredLog}
    (member : log.status ∈ healthCheckLogsStatusLabels) :
    SqlRow.cast (some healthCheckLogsStatusLabels) SchemaName.status log.row =
      some log.labelRow := by
  have casts : SqlValue.cast (some healthCheckLogsStatusLabels)
      (.text log.status : SqlValue Stored) = some (.label log.status) :=
    SqlValue.cast_text_eq_some.mpr ⟨member, rfl⟩
  rw [log.cast_row, casts, Option.map_some]
  congr 1
  funext column
  cases column <;> rfl

/-- No other status can be cast. -/
theorem StoredLog.member_of_cast {log : StoredLog}
    (casts : (SqlRow.cast (some healthCheckLogsStatusLabels) SchemaName.status
      log.row).isSome = true) : log.status ∈ healthCheckLogsStatusLabels := by
  rw [log.cast_row, Option.isSome_map] at casts
  obtain ⟨casted, found⟩ := Option.isSome_iff_exists.mp casts
  exact (SqlValue.cast_text_eq_some.mp found).1

/-- A log that `down` can take back: its status can be cast, and it is about a host. -/
structure StoredLog.Revertible (log : StoredLog) : Prop where
  member : log.status ∈ healthCheckLogsStatusLabels
  host : log.entityType = .host

/-- The rows as `host_id` is added, filled and made compulsory. -/
def refill (rows : List LogRow) : List LogRow :=
  ((rows.map (SqlRow.set .hostId none)).map
    (SqlRow.copy .hostId .entityId (some (.entityType, "host")))).filter
      fun row => (row SchemaName.hostId).isSome

/-- After the refill every log names its host again. -/
theorem refill_rows {logs : List StoredLog} (revertible : ∀ log ∈ logs, log.Revertible) :
    refill (logs.map StoredLog.labelRow) = logs.map StoredLog.bothRow := by
  have both : ((logs.map StoredLog.labelRow).map (SqlRow.set .hostId none)).map
      (SqlRow.copy .hostId .entityId (some (.entityType, "host"))) =
        logs.map StoredLog.bothRow := by
    rw [List.map_map, List.map_map]
    apply List.map_congr_left
    intro log member
    funext column
    have host := (revertible log member).host
    have label : HealthCheckEntityType.text log.entityType = "host" := by
      rw [host]
      rfl
    have satisfies : (SqlRow.set .hostId none log.labelRow).satisfies
        (some (SchemaName.entityType, "host")) = true := by
      change (log.entityType.text == "host") = true
      rw [label]
      rfl
    change SqlRow.copy _ _ _ (SqlRow.set .hostId none log.labelRow) column = _
    rw [SqlRow.copy, if_pos satisfies]
    cases column <;> rfl
  rw [refill, both]
  apply List.filter_eq_self.mpr
  intro row member
  obtain ⟨log, -, rfl⟩ := List.mem_map.mp member
  rfl

/-- The catalog before the foreign key is added. -/
def hostCatalog (tables : Phase2Tables) (rows : List LogRow) : Catalog SchemaName Stored where
  types :=
    [(.healthCheckLogsEntityTypeEnum, ["host", "domain", "ssl_certificate"]),
      (.healthCheckLogsStatusEnum, healthCheckLogsStatusLabels)]
  tables :=
    [(.organizations, keyTable tables.organizations),
      (.hosts, keyTable tables.hosts),
      (.healthCheckLogs,
        { (entityLogTable rows) with
          columns := (entityLogTable rows).columns ++
            [{ name := .hostId, type := .uuid, notNull := true }] })]
  indexes := [hostIndex]

/-- Where every log can be taken back, `down` reaches its foreign key. -/
theorem downHosts_transaction {tables : Phase2Tables}
    (revertible : ∀ log ∈ tables.logs, log.Revertible) :
    Catalog.transaction (downStatus :: downHosts) (statusCatalog tables) =
      some (hostCatalog tables (tables.logs.map StoredLog.bothRow)) := by
  have casts := mapM_map_some tables.logs fun log member =>
    StoredLog.cast_member (revertible log member).member
  have refilled := refill_rows revertible
  have compulsory : ∀ row ∈ refill (tables.logs.map StoredLog.labelRow),
      (row SchemaName.hostId).isSome = true := by
    intro row member
    exact (List.mem_filter.mp member).2
  rw [← refilled]
  apply (Catalog.transaction_step (Catalog.exec_alterType rfl rfl rfl casts) _).trans
  apply (Catalog.transaction_step rfl _).trans
  apply (Catalog.transaction_step rfl _).trans
  apply (Catalog.transaction_step rfl _).trans
  apply (Catalog.transaction_step (Catalog.exec_setNotNull rfl rfl compulsory) _).trans
  apply (Catalog.transaction_step rfl _).trans
  rfl

/-- Where the cast of the column succeeds, all statuses are labels. -/
theorem downStatus_members {tables : Phase2Tables} {next : Catalog SchemaName Stored}
    (executes : (statusCatalog tables).exec downStatus = some next) :
    ∀ log ∈ tables.logs, log.status ∈ healthCheckLogsStatusLabels := by
  obtain ⟨rows, casts⟩ := Catalog.alterType_casts rfl rfl executes
  intro log member
  exact log.member_of_cast (mapM_some_isSome casts log.row (List.mem_map_of_mem member))

/-- The reference to the hosts holds of a log whose entity is a host. -/
theorem StoredLog.refers_iff (log : StoredLog) (hosts : List Nat) :
    Catalog.Refers hostReference (hosts.map keyRow) log.bothRow ↔
      log.entityId ∈ hosts := by
  constructor
  · rintro (absent | ⟨target, member, same⟩)
    · cases absent
    · obtain ⟨host, hostMember, rfl⟩ := List.mem_map.mp member
      have equal : log.entityId = host := beq_iff_eq.mp same
      rw [equal]
      exact hostMember
  · intro member
    right
    exact ⟨keyRow log.entityId, List.mem_map_of_mem member, beq_self_eq_true log.entityId⟩

/-- Without the columns of the entity a row is the row of a host's log. -/
theorem StoredLog.drop_bothRow (log : StoredLog) :
    SqlRow.set .entityType none (SqlRow.set .entityId none log.bothRow) = log.hostRow := by
  funext column
  cases column <;> rfl


/-- The log table once the foreign key is back. -/
def referringTable (rows : List LogRow) : SqlTable SchemaName Stored :=
  { (entityLogTable rows) with
    columns := (entityLogTable rows).columns ++
      [{ name := .hostId, type := .uuid, notNull := true }]
    references := [hostReference] }

def referringCatalog (tables : Phase2Tables) : Catalog SchemaName Stored :=
  (hostCatalog tables (tables.logs.map StoredLog.bothRow)).setTable .healthCheckLogs
    (referringTable (tables.logs.map StoredLog.bothRow))

/-- The last statements succeed and leave the logs of the hosts. -/
theorem downEntity_transaction (tables : Phase2Tables) :
    ∃ after, Catalog.transaction downEntity (referringCatalog tables) = some after ∧
      after.rows .healthCheckLogs = tables.logs.map StoredLog.hostRow := by
  refine ⟨_, rfl, ?_⟩
  change ((tables.logs.map StoredLog.bothRow).map (SqlRow.set .entityId none)).map
    (SqlRow.set .entityType none) = _
  rw [List.map_map, List.map_map]
  exact List.map_congr_left fun log _ => log.drop_bothRow

/-- `down`, cut where a statement may fail. -/
theorem down_eq : down = downTables ++ ((downStatus :: downHosts) ++
    downReference :: downEntity) :=
  rfl

/-- Where every log is a host's that still exists, `down` completes and takes all of them
back. -/
theorem down_takesBack {tables : Phase2Tables}
    (revertible : ∀ log ∈ tables.logs, log.Revertible)
    (exist : ∀ log ∈ tables.logs, log.entityId ∈ tables.hosts) :
    ∃ after, Catalog.transaction down (phase2Catalog tables) = some after ∧
      after.rows .healthCheckLogs = tables.logs.map StoredLog.hostRow := by
  have refer : ∀ row ∈ tables.logs.map StoredLog.bothRow,
      Catalog.Refers hostReference (tables.hosts.map keyRow) row := by
    intro row member
    obtain ⟨log, logMember, rfl⟩ := List.mem_map.mp member
    exact (log.refers_iff tables.hosts).mpr (exist log logMember)
  obtain ⟨after, drops, rows⟩ := downEntity_transaction tables
  refine ⟨after, ?_, rows⟩
  rw [down_eq, Catalog.transaction_append, downTables_transaction, Option.bind_some,
    Catalog.transaction_append, downHosts_transaction revertible, Option.bind_some]
  apply (Catalog.transaction_step (Catalog.exec_addReference rfl rfl rfl refer) _).trans
  exact drops

/-! ### What the application writes -/

/-- The labels of the checks: of hosts those of the initial schema, of domains and
certificates the checkers' own. -/
def HealthCheckLog.Labelled (log : HealthCheckLog) : Prop :=
  match log.entityType with
  | .host => log.status ∈ healthCheckLogsStatusLabels
  | .domain => (∃ status : DomainDnsStatus, log.status = status.text) ∨
      log.status = "whois_ok" ∨ log.status = "whois_failed"
  | .sslCertificate => (∃ status : SslCertificateStatus, log.status = status.text) ∨
      log.status = "skipped"
  | .service => False

/-- No status of a domain is a label of the old type. -/
theorem DomainDnsStatus.text_notMember (status : DomainDnsStatus) :
    status.text ∉ healthCheckLogsStatusLabels := by
  cases status <;> decide

/-- Neither is a status of a certificate. -/
theorem SslCertificateStatus.text_notMember (status : SslCertificateStatus) :
    status.text ∉ healthCheckLogsStatusLabels := by
  cases status <;> decide

/-- No label of a domain or a certificate is a status of the initial schema. -/
theorem HealthCheckLog.Labelled.host {log : HealthCheckLog} (labelled : log.Labelled)
    (member : log.status ∈ healthCheckLogsStatusLabels) : log.entityType = .host := by
  unfold HealthCheckLog.Labelled at labelled
  split at labelled
  · assumption
  · rcases labelled with ⟨status, same⟩ | same | same
    · rw [same] at member
      exact absurd member status.text_notMember
    · rw [same] at member
      exact absurd member (by decide)
    · rw [same] at member
      exact absurd member (by decide)
  · rcases labelled with ⟨status, same⟩ | same
    · rw [same] at member
      exact absurd member status.text_notMember
    · rw [same] at member
      exact absurd member (by decide)
  · cases labelled

/-- A call that writes no log, or one with a label of its checker. -/
def Call.WritesLabel : Call → Prop
  | .query (.writeHealthCheckLog log) => log.Labelled
  | _ => True

theorem Call.OfAlerts.writesLabel {call : Call} (ofAlerts : call.OfAlerts) :
    call.WritesLabel := by
  cases call with
  | query q => cases q <;> trivial
  | _ => trivial

/-- The log of a certificate has one of its labels. -/
theorem checkTls_writes (platform : Platform) (domain : Domain) (resolvedIp : String) :
    (checkTls platform domain resolvedIp).Only Call.WritesLabel := by
  apply Program.Only.bind ((performTlsCheck_only _ _ _).mono ?_)
  · intro tlsResult
    apply Program.Only.bind (Program.only_perform (.inl ⟨tlsResult.status, rfl⟩))
    intro log
    apply Program.Only.bind (Program.only_perform trivial)
    intro found
    split
    · trivial
    apply Program.Only.bind (Program.only_perform trivial)
    intro lastCheckedAt
    apply Program.Only.bind Program.only_ofExcept
    intro validFrom
    apply Program.Only.bind Program.only_ofExcept
    intro validTo
    apply Program.Only.bind (Program.only_perform trivial)
    intro saved
    exact (evaluateTransition_only _ _).mono fun call => Call.OfAlerts.writesLabel
  · intro call ofHandshake
    cases call <;> trivial

theorem Call.OfLookup.writesLabel {call : Call} (ofLookup : call.OfLookup) :
    call.WritesLabel := by
  cases call <;> trivial

/-- Whatever a domain check finds, its logs have the labels of `Labelled`. -/
theorem checkDomain_writes (platform : Platform) (domainId : Nat) :
    (checkDomain platform domainId).Only Call.WritesLabel := by
  apply Program.Only.bind (Program.only_perform trivial)
  intro found
  split
  · trivial
  · next domain =>
    apply Program.Only.bind
      ((performDnsCheck_only _).mono fun call => Call.OfLookup.writesLabel)
    intro dnsResult
    apply Program.Only.bind (Program.only_perform (.inl ⟨dnsResult.status, rfl⟩))
    intro dnsLog
    apply Program.Only.bind
      ((performWhoisLookup_only _ _).mono fun call => Call.OfLookup.writesLabel)
    intro whoisResult
    have label : (if whoisResult.ok then "whois_ok" else "whois_failed") = "whois_ok" ∨
        (if whoisResult.ok then "whois_ok" else "whois_failed") = "whois_failed" := by
      split
      · exact .inl rfl
      · exact .inr rfl
    apply Program.Only.bind (Program.only_perform (.inr label))
    intro whoisLog
    apply Program.Only.bind (Program.only_perform trivial)
    intro checkedAt
    apply Program.Only.bind (Program.only_perform trivial)
    intro saved
    unfold checkCertificate
    split
    · apply checkTls_writes
    · exact Program.Only.bind (Program.only_perform (.inr rfl)) fun log => trivial

/-! ### When the migration is reversible -/

/-- On logs that the checks have written, `down` restores exactly the logs of stored hosts.
-/
theorem down_restores_iff {tables : Phase2Tables}
    (labelled : ∀ log ∈ tables.logs, log.Labelled) :
    DownRestores tables ↔
      ∀ log ∈ tables.logs, log.entityType = .host ∧ log.entityId ∈ tables.hosts := by
  constructor
  · rintro ⟨after, commits, -⟩
    rw [down_eq, Catalog.transaction_append, downTables_transaction, Option.bind_some,
      Catalog.transaction_append] at commits
    obtain ⟨reached, reaches, finishes⟩ := Option.bind_eq_some_iff.mp commits
    obtain ⟨_, casts, -⟩ := Catalog.transaction_cons_some reaches
    have members := downStatus_members casts
    have revertible : ∀ log ∈ tables.logs, log.Revertible := fun log member =>
      ⟨members log member, (labelled log member).host (members log member)⟩
    rw [downHosts_transaction revertible] at reaches
    cases reaches
    obtain ⟨_, adds, -⟩ := Catalog.transaction_cons_some finishes
    have refer := Catalog.addReference_refers rfl rfl adds
    intro log member
    have refers := refer log.bothRow (List.mem_map_of_mem member)
    exact ⟨(revertible log member).host, (log.refers_iff tables.hosts).mp refers⟩
  · intro hosts
    have revertible : ∀ log ∈ tables.logs, log.Revertible := by
      intro log member
      have host := (hosts log member).1
      have statusMember := labelled log member
      rw [HealthCheckLog.Labelled, host] at statusMember
      exact ⟨statusMember, host⟩
    obtain ⟨after, commits, rows⟩ :=
      down_takesBack revertible fun log member => (hosts log member).2
    have all : tables.logs.filter StoredLog.isHost = tables.logs := by
      apply List.filter_eq_self.mpr
      intro log member
      exact decide_eq_true (hosts log member).1
    exact ⟨after, commits, by rw [rows, all]⟩

/-- `up` and then `down` restores every log of the initial schema.  After `up`, `down`
restores the logs of the hosts exactly where there are no others, and every host that has
one is still there. -/
theorem migration_reversible_iff (organizations : List Nat) :
    (∀ initial : InitialLogs, ∃ after,
      (Catalog.transaction up (initialCatalog organizations initial)).bind
        (Catalog.transaction down) = some after ∧
      after.rows .healthCheckLogs =
        (initialCatalog organizations initial).rows .healthCheckLogs) ∧
    ∀ tables : Phase2Tables, (∀ log ∈ tables.logs, log.Labelled) →
      (DownRestores tables ↔
        ∀ log ∈ tables.logs, log.entityType = .host ∧ log.entityId ∈ tables.hosts) := by
  refine ⟨?_, fun tables labelled => down_restores_iff labelled⟩
  intro initial
  have revertible : ∀ log ∈ (initial.upgraded organizations).logs, log.Revertible := by
    intro log member
    obtain ⟨hostLog, -, rfl⟩ := List.mem_map.mp member
    exact ⟨hostLog.member, rfl⟩
  have exist : ∀ log ∈ (initial.upgraded organizations).logs,
      log.entityId ∈ initial.hosts := by
    intro log member
    obtain ⟨hostLog, hostMember, rfl⟩ := List.mem_map.mp member
    exact initial.references hostLog hostMember
  obtain ⟨after, commits, rows⟩ := down_takesBack revertible exist
  refine ⟨after, ?_, ?_⟩
  · rw [up_transaction, Option.bind_some, commits]
  · rw [rows]
    change (initial.logs.map HostLog.stored).map StoredLog.hostRow =
      initial.logs.map HostLog.row
    rw [List.map_map]
    apply List.map_congr_left
    intro log _
    funext column
    cases column <;> rfl

/-- A host with one log, and whatever other logs there are. -/
def checkedTables (others : List StoredLog) : Phase2Tables where
  organizations := [1]
  hosts := [2]
  logs :=
    { id := 3, entityType := .host, entityId := 2, status := "healthy"
      rawOutput := .obj [], checkedAt := 0 } :: others
  domains := []
  certificates := []

theorem migration_reversible_checked : DownRestores (checkedTables []) := by
  apply ((migration_reversible_iff []).2 (checkedTables []) ?_).mpr
  · intro log member
    cases List.mem_singleton.mp member
    exact ⟨rfl, by decide⟩
  · intro log member
    cases List.mem_singleton.mp member
    exact List.mem_cons_self

/-- A domain that resolves has been checked once. -/
def resolvingLog : StoredLog :=
  { id := 4, entityType := .domain, entityId := 5, status := "resolving"
    rawOutput := .obj [("check", .str "dns")], checkedAt := 0 }

/-- One log of a domain, and `down` fails. -/
theorem domain_log_blocks_down :
    (∀ log ∈ (checkedTables [resolvingLog]).logs, log.Labelled) ∧
      Catalog.transaction down (phase2Catalog (checkedTables [resolvingLog])) = none ∧
      ¬ DownRestores (checkedTables [resolvingLog]) := by
  have fails :
      Catalog.transaction down (phase2Catalog (checkedTables [resolvingLog])) = none :=
    rfl
  refine ⟨?_, fails, ?_⟩
  · intro log member
    rcases List.mem_pair.mp member with rfl | rfl
    · exact List.mem_cons_self
    · exact .inl ⟨.resolving, rfl⟩
  · rintro ⟨after, commits, -⟩
    rw [fails] at commits
    cases commits

end ServersManager

import AuthKeyspace.Table.Descriptor

/-!
# The tables of the auth keyspace

Roles, what they may do, who is whose member and from where a client may come: eight tables, in the
order in which they stand in the keyspace. Their texts are kept as the storage engine has always
received them, so a change to one has to come with a new schema generation.

Main statement: `declarations_names`, the list declares the eight names, in this order.
-/

namespace AuthKeyspace.Declared

open AuthKeyspace.Table

/-- The name of the keyspace. -/
def keyspaceName : String := "system_auth"

/-- Who can log in, and how. -/
def roles : Declaration where
  name := "roles"
  description := "role definitions"
  schemaText :=
    "CREATE TABLE IF NOT EXISTS %s (role text,is_superuser boolean,can_login boolean," ++
    "salted_hash text,member_of set<text>,password_set_date date,PRIMARY KEY(role))"

/-- Which roles a role was granted to. -/
def roleMembers : Declaration where
  name := "role_members"
  description := "role memberships lookup table"
  schemaText := "CREATE TABLE IF NOT EXISTS %s (role text,member text,PRIMARY KEY(role, member))"

/-- What a role may do to a resource. -/
def rolePermissions : Declaration where
  name := "role_permissions"
  description := "permissions granted to db roles"
  schemaText :=
    "CREATE TABLE IF NOT EXISTS %s (role text,resource text,permissions set<text>," ++
    "PRIMARY KEY(role, resource))"

/-- Which roles have permissions on a resource. The name has been misspelt on disk from the first
day; another name would be another identifier. -/
def resourceRoleIndex : Declaration where
  name := "resource_role_permissons_index"
  description := "index of db roles with permissions granted on a resource"
  schemaText :=
    "CREATE TABLE IF NOT EXISTS %s (resource text,role text,PRIMARY KEY(resource, role))"

/-- The datacenters a role may connect to. -/
def networkPermissions : Declaration where
  name := "network_permissions"
  description := "user network permissions"
  schemaText :=
    "CREATE TABLE IF NOT EXISTS %s (role text, dcs frozen<set<text>>, PRIMARY KEY(role))"

/-- The groups of addresses a role may connect from. -/
def cidrPermissions : Declaration where
  name := "cidr_permissions"
  description := "user cidr permissions"
  schemaText := "CREATE TABLE %s (role text, cidr_groups frozen<set<text>>, PRIMARY KEY(role))"

/-- The addresses in a group. -/
def cidrGroups : Declaration where
  name := "cidr_groups"
  description := "cidr groups to cidrs mapping"
  schemaText :=
    "CREATE TABLE %s (cidr_group text, cidrs frozen<set<tuple<inet, smallint>>>, " ++
    "PRIMARY KEY(cidr_group))"

/-- The roles of identities that an authenticator vouches for. -/
def identityToRole : Declaration where
  name := "identity_to_role"
  description := "mtls authorized identities lookup table"
  schemaText := "CREATE TABLE IF NOT EXISTS %s (identity text,role text,PRIMARY KEY(identity))"

/-- All tables, in the order in which they stand in the keyspace. -/
def declarations : List Declaration :=
  [roles, roleMembers, rolePermissions, resourceRoleIndex, networkPermissions, cidrPermissions,
   cidrGroups, identityToRole]

/-- The names the keyspace has to have, no more and no fewer. -/
def tableNames : List String :=
  ["roles", "role_members", "role_permissions", "resource_role_permissons_index",
   "network_permissions", "cidr_permissions", "cidr_groups", "identity_to_role"]

/-- The declaration of a table. -/
def declaration? (name : String) : Option Declaration := declarations.find? (·.name == name)

theorem declarations_names : declarations.map (·.name) = tableNames := rfl

end AuthKeyspace.Declared

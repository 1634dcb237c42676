import OrdinalAdmission.Codec

/-!
# Kubeconfig files

A kubeconfig lists clusters, users and contexts by name. A context joins a cluster and a user; it
leads to a server when both are listed and the cluster has one.
-/

namespace OrdinalAdmission.Kube

structure Cluster where
  server : Option String := none
  deriving DecidableEq, Inhabited

def Cluster.codec : Codec Cluster :=
  .object {} [.optional "server" .text (·.server) fun v c => { c with server := v }]

structure Context where
  cluster : String := ""
  user : Option String := none
  deriving DecidableEq, Inhabited

def Context.codec : Codec Context :=
  .object {} [
    .defaulted "cluster" .text "" (·.cluster) fun v c => { c with cluster := v },
    .optional "user" .text (·.user) fun v c => { c with user := v }]

structure NamedCluster where
  cluster : Option Cluster := none
  name : String := ""
  deriving DecidableEq, Inhabited

def NamedCluster.codec : Codec NamedCluster :=
  .object {} [
    .optional "cluster" Cluster.codec (·.cluster) fun v c => { c with cluster := v },
    .defaulted "name" .text "" (·.name) fun v c => { c with name := v }]

structure NamedContext where
  context : Option Context := none
  name : String := ""
  deriving DecidableEq, Inhabited

def NamedContext.codec : Codec NamedContext :=
  .object {} [
    .optional "context" Context.codec (·.context) fun v c => { c with context := v },
    .defaulted "name" .text "" (·.name) fun v c => { c with name := v }]

structure NamedUser where
  name : String := ""
  deriving DecidableEq, Inhabited

def NamedUser.codec : Codec NamedUser :=
  .object {} [.defaulted "name" .text "" (·.name) fun v u => { u with name := v }]

structure Kubeconfig where
  clusters : List NamedCluster := []
  contexts : List NamedContext := []
  currentContext : Option String := none
  users : List NamedUser := []
  deriving DecidableEq, Inhabited

namespace Kubeconfig

def codec : Codec Kubeconfig :=
  .object {} [
    .defaulted "clusters" (.list NamedCluster.codec) [] (·.clusters)
      fun v k => { k with clusters := v },
    .defaulted "contexts" (.list NamedContext.codec) [] (·.contexts)
      fun v k => { k with contexts := v },
    .optional "current-context" .text (·.currentContext) fun v k => { k with currentContext := v },
    .defaulted "users" (.list NamedUser.codec) [] (·.users) fun v k => { k with users := v }]

def server? (config : Kubeconfig) (choice : Option String) : Option String := do
  let name ← choice <|> config.currentContext
  let context ← (← config.contexts.find? (·.name == name)).context
  let cluster ← (← config.clusters.find? (·.name == context.cluster)).cluster
  if context.user.all fun user => config.users.any (·.name == user) then cluster.server else none

end Kubeconfig

end OrdinalAdmission.Kube

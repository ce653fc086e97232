import Lexis.Grammar.Basic

namespace Lexis
namespace Grammar

/-!
Grammars of markup, style, data and query languages.

The two markup languages share one grammar.
-/

def markupKeywords : Keywords
  | .boolean => ["true", "false"]
  | _ => []

def markup : Grammar where
  keywords := markupKeywords
  operators := ['=']
  features := {
    singleQuoteStrings := true
    markupComments := true
    tags := true }

def cssKeywords : Keywords
  | .modifier => ["important"]
  | .other => [
      "inherit", "initial", "unset", "revert", "none", "auto", "flex", "grid", "block",
      "inline", "hidden", "visible"]
  | _ => []

def css : Grammar where
  keywords := cssKeywords
  operators := ['+', '-', '*', '/', '%', ':', ';', ',', '>', '~']
  features := {
    singleQuoteStrings := true
    attributes := true }

def scssAdditions : Keywords
  | .operator => ["and", "or", "not"]
  | .boolean => ["true", "false"]
  | .null => ["null"]
  | _ => []

def scss : Grammar where
  keywords := cssKeywords.union scssAdditions
  operators := ['+', '-', '*', '/', '%', ':', ';', ',', '>', '~']
  features := {
    singleQuoteStrings := true
    attributes := true }

def jsonKeywords : Keywords
  | .boolean => ["true", "false"]
  | .null => ["null"]
  | _ => []

def json : Grammar where
  keywords := jsonKeywords
  operators := [':', ',']

def yamlKeywords : Keywords
  | .boolean => ["true", "false", "yes", "no", "on", "off"]
  | .null => ["null"]
  | _ => []

def yaml : Grammar where
  keywords := yamlKeywords
  operators := [':', '-', '|', '>']
  features := {
    singleQuoteStrings := true
    multilineStrings := true
    hashComments := true }

def sqlKeywords : Keywords
  | .declaration => [
      "CREATE", "ALTER", "DROP", "TRUNCATE", "TABLE", "INDEX", "VIEW", "DATABASE", "SCHEMA",
      "PROCEDURE", "FUNCTION", "TRIGGER"]
  | .control => [
      "SELECT", "FROM", "WHERE", "JOIN", "INNER", "LEFT", "RIGHT", "OUTER", "ON", "GROUP",
      "BY", "HAVING", "ORDER", "ASC", "DESC", "LIMIT", "OFFSET", "INSERT", "INTO", "VALUES",
      "UPDATE", "SET", "DELETE", "UNION", "INTERSECT", "EXCEPT", "CASE", "WHEN", "THEN",
      "ELSE", "END", "IF", "BEGIN", "COMMIT", "ROLLBACK", "TRANSACTION"]
  | .operator => [
      "AND", "OR", "NOT", "IN", "EXISTS", "BETWEEN", "LIKE", "IS", "AS", "DISTINCT", "ALL",
      "ANY", "SOME"]
  | .modifier => [
      "PRIMARY", "KEY", "FOREIGN", "REFERENCES", "UNIQUE", "DEFAULT", "AUTO_INCREMENT",
      "IDENTITY", "CHECK", "CONSTRAINT"]
  | .other => [
      "COUNT", "SUM", "AVG", "MIN", "MAX", "COALESCE", "NULLIF", "CAST", "CONVERT",
      "CONCAT", "SUBSTRING", "TRIM", "UPPER", "LOWER"]
  | .boolean => ["TRUE", "FALSE"]
  | .null => ["NULL"]
  | .types => [
      "INT", "INTEGER", "BIGINT", "SMALLINT", "TINYINT", "DECIMAL", "NUMERIC", "FLOAT",
      "REAL", "DOUBLE", "VARCHAR", "CHAR", "TEXT", "NVARCHAR", "NCHAR", "DATE", "TIME",
      "DATETIME", "TIMESTAMP", "BOOLEAN", "BLOB"]

def sql : Grammar where
  keywords := sqlKeywords
  operators := ['+', '-', '*', '/', '%', '=', '<', '>', '!', '&', '|']
  features := {
    singleQuoteStrings := true
    backtickStrings := true }

def dockerfileKeywords : Keywords
  | .declaration => [
      "FROM", "RUN", "CMD", "LABEL", "MAINTAINER", "EXPOSE", "ENV", "ADD", "COPY",
      "ENTRYPOINT", "VOLUME", "USER", "WORKDIR", "ARG", "ONBUILD", "STOPSIGNAL",
      "HEALTHCHECK", "SHELL"]
  | .operator => ["AS"]
  | .boolean => ["true", "false"]
  | _ => []

def dockerfile : Grammar where
  keywords := dockerfileKeywords
  operators := ['=']
  features := {
    singleQuoteStrings := true
    hashComments := true }

end Grammar
end Lexis

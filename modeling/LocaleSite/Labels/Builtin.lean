import LocaleSite.Labels

/-!
# The built-in site

The settings and labels used where no site is defined: the documentation of Zedio in English, its
root locale, and in Chinese.
-/

namespace LocaleSite

def BaseConfig.builtin : BaseConfig where
  base := "/zedio/"
  title := "ZEDIO"
  description := none
  lastUpdated := true
  cleanUrls := true
  metaChunk := true
  socialLinks := [⟨.github, "https://github.com/8sileus/zedio"⟩]
  search := ⟨.onDevice⟩
  footer := some {
    message := some
      ("Released under the <a href=\"https://github.com/8sileus/zedio/blob/main/LICENSE\">" ++
        "MIT License</a>")
    copyright := some "Copyright © 2024 <a href=\"https://github.com/8sileus\">8sileus</a>" }

namespace LocaleLabels

/-- Where the built-in pages are edited. -/
def builtinEditPattern : String := "https://github.com/8sileus/zedio/edit/main/docs/:path"

def english : LocaleLabels where
  id := "en"
  root := true
  label := "English"
  lang := "en-US"
  description := "Asynchronous Library for Applications in C++"
  title := none
  nav := {
    group := {
      text := "Zedio"
      sectionDir := "zedio"
      pages := [⟨"About", "overview"⟩, ⟨"Install & Usage", "install"⟩,
        ⟨"Contributing", "contributing"⟩] }
    links := [⟨"Benchmark", "zedio", "benchmark"⟩, ⟨"Runtime", "user_guide", "runtime"⟩,
      ⟨"Async IO", "user_guide", "io"⟩]
    extra := [] }
  sections := [
    { dir := "zedio"
      title := "Zedio"
      collapsed := false
      pages := [⟨"Overview", "overview"⟩, ⟨"Install & Usage", "install"⟩,
        ⟨"Benchmark", "benchmark"⟩, ⟨"Contributing", "contributing"⟩] },
    { dir := "user_guide"
      title := "User Guide"
      collapsed := false
      pages := [⟨"Runtime", "runtime"⟩, ⟨"Async IO", "io"⟩] }]
  editLink := some ⟨builtinEditPattern, "Edit this page on Github"⟩
  footer := none

/-- The built-in Chinese labels; their user guide has two pages more than the English one. -/
def chinese : LocaleLabels where
  id := "zh"
  root := false
  label := "简体中文(未完成)"
  lang := "zh-CN"
  description := "C++异步运行时框架"
  title := none
  nav := {
    group := {
      text := "Zedio"
      sectionDir := "zedio"
      pages := [⟨"关于", "overview"⟩, ⟨"安装 & 使用", "install"⟩, ⟨"参与贡献", "contributing"⟩] }
    links := [⟨"基准测试", "zedio", "benchmark"⟩, ⟨"Runtime", "user_guide", "runtime"⟩,
      ⟨"Async IO", "user_guide", "io"⟩]
    extra := [] }
  sections := [
    { dir := "zedio"
      title := "Zedio"
      collapsed := false
      pages := [⟨"关于", "overview"⟩, ⟨"安装 & 使用", "install"⟩, ⟨"基准测试", "benchmark"⟩,
        ⟨"参与贡献", "contributing"⟩] },
    { dir := "user_guide"
      title := "API"
      collapsed := false
      pages := [⟨"例子", "example"⟩, ⟨"Runtime", "runtime"⟩, ⟨"Async IO", "io"⟩,
        ⟨"错误处理", "error_exception"⟩] }]
  editLink := some ⟨builtinEditPattern, "编辑此页面"⟩
  footer := none

end LocaleLabels

end LocaleSite
